import StandIn.Program

/-!
What can come of a program, whatever its surroundings are. `Program.Yields` relates a program to
the exchanges and the value that it ends with for some answers. A run against any surroundings
yields its trace and value, so what holds of everything that a program yields holds of every run.
-/

set_option autoImplicit false

namespace StandIn.Program

variable {Request : Type} {Answer : Request → Type} {Value Result : Type}

/-- The program ends with the value after these exchanges, for some choice of the answers. -/
inductive Yields : Program Answer Value → List (Exchange Answer) → Value → Prop where
  | done (value : Value) : Yields (.done value) [] value
  | ask {question : Request} {next : Answer question → Program Answer Value}
      {trace : List (Exchange Answer)} {value : Value} (answer : Answer question)
      (rest : Yields (next answer) trace value) :
      Yields (.ask question next) (⟨question, answer⟩ :: trace) value

theorem run_yields {State : Type} (behaviour : Behaviour Answer State)
    (program : Program Answer Value) (state : State) :
    program.Yields (program.run behaviour state).trace (program.run behaviour state).value := by
  induction program generalizing state with
  | done value => exact .done value
  | ask question next next_yields =>
      exact .ask (behaviour question state).1 (next_yields _ (behaviour question state).2)

theorem yields_done {value result : Value} {trace : List (Exchange Answer)}
    (yields : (done value : Program Answer Value).Yields trace result) :
    trace = [] ∧ result = value := by
  cases yields
  exact ⟨rfl, rfl⟩

theorem yields_done_pair {First Second : Type} {first ended : First} {second after : Second}
    {trace : List (Exchange Answer)}
    (yields : (done (first, second) : Program Answer (First × Second)).Yields trace (ended, after)) :
    trace = [] ∧ ended = first ∧ after = second := by
  obtain ⟨nothing, same⟩ := yields_done yields
  exact ⟨nothing, congrArg Prod.fst same, congrArg Prod.snd same⟩

theorem yields_ask {question : Request} {next : Answer question → Program Answer Value}
    {trace : List (Exchange Answer)} {value : Value} (yields : (ask question next).Yields trace value) :
    ∃ answer rest, trace = ⟨question, answer⟩ :: rest ∧ (next answer).Yields rest value := by
  cases yields with
  | ask answer rest => exact ⟨answer, _, rfl, rest⟩

/-- What two programs in sequence yield, the first yields up to some point and the second, for the
value of the first, from there on. -/
theorem yields_bind {program : Program Answer Value} {next : Value → Program Answer Result}
    {trace : List (Exchange Answer)} {result : Result} (yields : (program.bind next).Yields trace result) :
    ∃ first value rest, program.Yields first value ∧ (next value).Yields rest result ∧
      trace = first ++ rest := by
  induction program generalizing trace with
  | done value => exact ⟨[], value, trace, .done value, yields, rfl⟩
  | ask question inner inner_cases =>
      obtain ⟨answer, others, rfl, after⟩ := yields_ask yields
      obtain ⟨first, value, rest, before, behind, rfl⟩ := inner_cases answer after
      exact ⟨⟨question, answer⟩ :: first, value, rest, .ask answer before, behind, rfl⟩

end StandIn.Program
