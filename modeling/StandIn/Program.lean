/-!
Programs as data. A program is either done with a value, or it puts a request to its surroundings
and goes on with whatever it is told. It performs nothing by itself: the same program is carried
out by a pure model of the surroundings (`run`), inside any monad (`perform`), or by programs of a
lower level (`perform` with programs for the handler).

The laws here say that sequencing is associative and that a run of two programs in sequence is the
first run followed by the second. Nothing is claimed about any particular surroundings.
-/

set_option autoImplicit false

namespace StandIn

inductive Program {Request : Type} (Answer : Request → Type) (Value : Type) where
  | done (value : Value)
  | ask (request : Request) (next : Answer request → Program Answer Value)

structure Exchange {Request : Type} (Answer : Request → Type) where
  request : Request
  answer : Answer request

/-- Surroundings with a state of their own: each request is answered and changes the state. -/
abbrev Behaviour {Request : Type} (Answer : Request → Type) (State : Type) :=
  (request : Request) → State → Answer request × State

/-- What is left when a program has been run: the exchanges in order, its value, and the state of
the surroundings. -/
structure Finished {Request : Type} (Answer : Request → Type) (State Value : Type) where
  trace : List (Exchange Answer)
  value : Value
  state : State

namespace Program

variable {Request : Type} {Answer : Request → Type} {Value Result : Type}

def bind : Program Answer Value → (Value → Program Answer Result) → Program Answer Result
  | .done value, next => next value
  | .ask request rest, next => .ask request fun answer => (rest answer).bind next

instance : Monad (Program Answer) where
  pure := .done
  bind := bind

def request (question : Request) : Program Answer (Answer question) :=
  .ask question .done

@[simp]
theorem done_bind (value : Value) (next : Value → Program Answer Result) :
    (done value).bind next = next value := rfl

@[simp]
theorem ask_bind (question : Request) (rest : Answer question → Program Answer Value)
    (next : Value → Program Answer Result) :
    (ask question rest).bind next = .ask question fun answer => (rest answer).bind next := rfl

@[simp]
theorem bind_done (program : Program Answer Value) : program.bind .done = program := by
  induction program with
  | done value => rfl
  | ask question rest rest_eq => simp only [ask_bind, rest_eq]

theorem bind_bind {Final : Type} (program : Program Answer Value)
    (next : Value → Program Answer Result) (last : Result → Program Answer Final) :
    (program.bind next).bind last = program.bind fun value => (next value).bind last := by
  induction program with
  | done value => rfl
  | ask question rest rest_eq => simp only [ask_bind, rest_eq]

instance : LawfulMonad (Program Answer) :=
  LawfulMonad.mk' (Program Answer)
    (fun program => bind_done program)
    (fun _ _ => rfl)
    (fun program next last => bind_bind program next last)

variable {State : Type}

def run (behaviour : Behaviour Answer State) :
    Program Answer Value → State → Finished Answer State Value
  | .done value, state => ⟨[], value, state⟩
  | .ask question next, state =>
    let (answer, changed) := behaviour question state
    let finished := (next answer).run behaviour changed
    { finished with trace := ⟨question, answer⟩ :: finished.trace }

@[simp]
theorem run_done (behaviour : Behaviour Answer State) (value : Value) (state : State) :
    (done value).run behaviour state = ⟨[], value, state⟩ := rfl

/-- Running two programs in sequence is running the first and then, from where it stopped, the
second. -/
theorem run_bind (behaviour : Behaviour Answer State) (program : Program Answer Value)
    (next : Value → Program Answer Result) (state : State) :
    (program.bind next).run behaviour state =
      let first := program.run behaviour state
      let second := (next first.value).run behaviour first.state
      ⟨first.trace ++ second.trace, second.value, second.state⟩ := by
  induction program generalizing state with
  | done value => rfl
  | ask question rest rest_eq => simp only [ask_bind, run, rest_eq, List.cons_append]

/-- Carries a program out inside a monad. -/
def perform {Effect : Type → Type} [Monad Effect]
    (handler : (question : Request) → Effect (Answer question)) :
    Program Answer Value → Effect Value
  | .done value => pure value
  | .ask question next => do (next (← handler question)).perform handler

end Program
end StandIn
