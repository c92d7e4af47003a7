import StandIn.Proofs.Program.Yields

/-!
Programs on two levels. A program whose requests are carried out by programs of a lower level ends
as it would against surroundings that answer each request with what its lower program ends with.
So what is known of a program against any surroundings holds of it on every lower level.
-/

set_option autoImplicit false

namespace StandIn.Program

variable {Upper Lower State Value : Type} {Answer : Upper → Type} {Reply : Lower → Type}

/-- The surroundings that lower programs make out of those of their own level. -/
def through (handler : (request : Upper) → Program Reply (Answer request))
    (behaviour : Behaviour Reply State) : Behaviour Answer State := fun request state =>
  let finished := (handler request).run behaviour state
  (finished.value, finished.state)

/-- On the lower level a program ends with the same value and in the same state. -/
theorem run_perform (handler : (request : Upper) → Program Reply (Answer request))
    (behaviour : Behaviour Reply State) (program : Program Answer Value) (state : State) :
    let below := (program.perform handler).run behaviour state
    let above := program.run (through handler behaviour) state
    below.value = above.value ∧ below.state = above.state := by
  intro below above
  induction program generalizing state with
  | done value => exact ⟨rfl, rfl⟩
  | ask question rest induction =>
      have lowered : below = ((handler question).bind fun answer =>
          (rest answer).perform handler).run behaviour state := rfl
      rw [run_bind] at lowered
      have later := induction ((handler question).run behaviour state).value
        ((handler question).run behaviour state).state
      rw [lowered]
      exact later

/-! ## Answers along a trace -/

/-- The surroundings give these answers in turn, and come from one state to the other by them. -/
inductive Answered (behaviour : Behaviour Reply State) :
    State → List (Exchange Reply) → State → Prop where
  | nil (state : State) : Answered behaviour state [] state
  | cons {state after : State} (request : Lower) {trace : List (Exchange Reply)}
      (answered : Answered behaviour (behaviour request state).2 trace after) :
      Answered behaviour state (⟨request, (behaviour request state).1⟩ :: trace) after

theorem run_answered (behaviour : Behaviour Reply State) (program : Program Reply Value)
    (state : State) :
    Answered behaviour state (program.run behaviour state).trace
      (program.run behaviour state).state := by
  induction program generalizing state with
  | done value => exact .nil state
  | ask question next induction => exact .cons question (induction _ _)

variable {behaviour : Behaviour Reply State} {state after : State}

theorem answered_nil (answered : Answered behaviour state [] after) : after = state := by
  cases answered
  rfl

theorem answered_cons {request : Lower} {reply : Reply request} {trace : List (Exchange Reply)}
    (answered : Answered behaviour state (⟨request, reply⟩ :: trace) after) :
    reply = (behaviour request state).1 ∧
      Answered behaviour (behaviour request state).2 trace after := by
  cases answered with
  | cons request answered => exact ⟨rfl, answered⟩

theorem answered_append {first second : List (Exchange Reply)}
    (answered : Answered behaviour state (first ++ second) after) :
    ∃ middle, Answered behaviour state first middle ∧ Answered behaviour middle second after := by
  induction first generalizing state with
  | nil => exact ⟨state, .nil state, answered⟩
  | cons exchange rest induction =>
      cases answered with
      | cons request answered =>
          obtain ⟨middle, early, late⟩ := induction answered
          exact ⟨middle, .cons request early, late⟩

/-- Every answer of a run was given in some state. -/
theorem answered_member {trace : List (Exchange Reply)} (answered : Answered behaviour state trace after)
    {exchange : Exchange Reply} (member : exchange ∈ trace) :
    ∃ there, exchange.answer = (behaviour exchange.request there).1 := by
  induction answered with
  | nil => cases member
  | @cons state _ request trace _ induction =>
      rcases List.mem_cons.mp member with rfl | later
      · exact ⟨state, rfl⟩
      · exact induction later

/-! ## What the lower level has done for the upper one -/

/-- The lower exchanges are those of the programs that carry out the upper requests, in their order,
each ending with the answer that its request got. -/
inductive Carried (handler : (request : Upper) → Program Reply (Answer request)) :
    List (Exchange Answer) → List (Exchange Reply) → Prop where
  | nil : Carried handler [] []
  | cons {request : Upper} {answer : Answer request} {part lower : List (Exchange Reply)}
      {upper : List (Exchange Answer)} (done : (handler request).Yields part answer)
      (carried : Carried handler upper lower) :
      Carried handler (⟨request, answer⟩ :: upper) (part ++ lower)

/-- What a program yields on the lower level, it has yielded on its own, and that was carried out. -/
theorem yields_perform {handler : (request : Upper) → Program Reply (Answer request)}
    {program : Program Answer Value} {lower : List (Exchange Reply)} {value : Value}
    (yields : (program.perform handler).Yields lower value) :
    ∃ upper, program.Yields upper value ∧ Carried handler upper lower := by
  induction program generalizing lower with
  | done result =>
      obtain ⟨rfl, rfl⟩ := yields_done yields
      exact ⟨[], .done _, .nil⟩
  | ask question next induction =>
      obtain ⟨part, answer, rest, done, later, rfl⟩ := yields_bind yields
      obtain ⟨upper, spoken, carried⟩ := induction answer later
      exact ⟨⟨question, answer⟩ :: upper, .ask answer spoken, .cons done carried⟩

theorem carried_member {handler : (request : Upper) → Program Reply (Answer request)}
    {upper : List (Exchange Answer)} {lower : List (Exchange Reply)}
    (carried : Carried handler upper lower) {exchange : Exchange Answer} (member : exchange ∈ upper) :
    ∃ part, (handler exchange.request).Yields part exchange.answer := by
  induction carried with
  | nil => cases member
  | cons done _ induction =>
      rcases List.mem_cons.mp member with rfl | later
      · exact ⟨_, done⟩
      · exact induction later

end StandIn.Program
