import StandIn.Proofs.Controller.Execution

/-!
Scripts and whole histories of a controller. A history is any list of steps, each taken from
whatever state the one before it has left behind, also after a fault.
-/

set_option autoImplicit false

namespace StandIn.Controller

open Wire (Trace)

/-! ## Scripts -/

inductive Following : Nat → List String → Controller → Trace → Except Fault Unit → Controller →
    Prop where
  | done (number : Nat) (before : Controller) : Following number [] before [] (.ok ()) before
  | unreadable (number : Nat) (line : String) (rest : List String) (before : Controller)
      (fault : Fault) (read : Command.ofLine number line = .error fault) :
      Following number (line :: rest) before [] (.error fault) before
  | skipped (number : Nat) (line : String) {rest : List String} {before after : Controller}
      {trace : Trace} {result : Except Fault Unit} (read : Command.ofLine number line = .ok none)
      (following : Following (number + 1) rest before trace result after) :
      Following number (line :: rest) before trace result after
  | stopped (number : Nat) (line : String) (rest : List String) {before after : Controller}
      {trace : Trace} {fault : Fault} (command : Command)
      (read : Command.ofLine number line = .ok (some command))
      (executing : Executing command before trace (.error fault) after) :
      Following number (line :: rest) before trace (.error fault) after
  | executed (number : Nat) (line : String) {rest : List String} {before middle after : Controller}
      {trace others : Trace} {result : Except Fault Unit} (command : Command)
      (read : Command.ofLine number line = .ok (some command))
      (executing : Executing command before trace (.ok ()) middle)
      (following : Following (number + 1) rest middle others result after) :
      Following number (line :: rest) before (trace ++ others) result after

theorem follow_cons_error {number : Nat} {line : String} {fault : Fault}
    (read : Command.ofLine number line = .error fault) (rest : List String) :
    follow number (line :: rest) = throw fault := by
  simp only [follow, read]

theorem follow_cons_none {number : Nat} {line : String}
    (read : Command.ofLine number line = .ok none) (rest : List String) :
    follow number (line :: rest) = follow (number + 1) rest := by
  simp only [follow, read]

theorem follow_cons_some {number : Nat} {line : String} {command : Command}
    (read : Command.ofLine number line = .ok (some command)) (rest : List String) :
    follow number (line :: rest) = (do execute command; follow (number + 1) rest) := by
  simp only [follow, read]

theorem follow_append (number : Nat) (first second : List String) :
    follow number (first ++ second) =
      (do follow number first; follow (number + first.length) second) := by
  induction first generalizing number with
  | nil => exact (pure_bind _ _).symm
  | cons line rest induction =>
      have shifted : number + (line :: rest).length = number + 1 + rest.length := by
        rw [List.length_cons]
        omega
      rw [List.cons_append, shifted]
      cases read : Command.ofLine number line with
      | error fault =>
          rw [follow_cons_error read, follow_cons_error read]
          rfl
      | ok found =>
          cases found with
          | none => rw [follow_cons_none read, follow_cons_none read, induction]
          | some command =>
              rw [follow_cons_some read, follow_cons_some read, induction, bind_assoc]

theorem following {number : Nat} {lines : List String} {before after : Controller} {trace : Trace}
    {result : Except Fault Unit} (outcome : Outcome (follow number lines) before trace result after) :
    Following number lines before trace result after := by
  induction lines generalizing number before trace with
  | nil =>
      obtain ⟨rfl, rfl, rfl⟩ := outcome_done rfl outcome
      exact .done number _
  | cons line rest induction =>
      cases read : Command.ofLine number line with
      | error fault =>
          rw [follow_cons_error read] at outcome
          obtain ⟨rfl, rfl, rfl⟩ := outcome_done rfl outcome
          exact .unreadable number line rest _ fault read
      | ok found =>
          cases found with
          | none =>
              rw [follow_cons_none read] at outcome
              exact .skipped number line read (induction outcome)
          | some command =>
              rw [follow_cons_some read] at outcome
              rcases outcome_bind outcome with
                ⟨fault, rfl, failed⟩ | ⟨_, first, middle, others, executed, followed, rfl⟩
              · exact .stopped number line rest command read (executing failed)
              · exact .executed number line command read (executing executed) (induction followed)

inductive Running (lines : List String) (before : Controller) :
    Trace → Except Fault Stats → Controller → Prop where
  | stopped {trace : Trace} {fault : Fault} {after : Controller}
      (following : Following 1 lines before trace (.error fault) after) :
      Running lines before trace (.error fault) after
  | unfinished {trace others : Trace} {fault : Fault} {middle after : Controller}
      (following : Following 1 lines before trace (.ok ()) middle)
      (finishing : Finishing middle others (.error fault) after) :
      Running lines before (trace ++ others) (.error fault) after
  | finished {trace others : Trace} {middle after : Controller}
      (following : Following 1 lines before trace (.ok ()) middle)
      (finishing : Finishing middle others (.ok ()) after) :
      Running lines before (trace ++ others) (.ok after.stats) after

theorem running {lines : List String} {before after : Controller} {trace : Trace}
    {result : Except Fault Stats} (outcome : Outcome (run lines) before trace result after) :
    Running lines before trace result after := by
  rcases outcome_bind outcome with
    ⟨fault, rfl, failed⟩ | ⟨_, first, middle, rest, followed, ended, rfl⟩
  · exact .stopped (following failed)
  · rcases outcome_bind ended with
      ⟨fault, rfl, failed⟩ | ⟨_, second, last, none, finished, counted, rfl⟩
    · exact .unfinished (following followed) (finishing failed)
    · obtain ⟨rfl, rfl, rfl⟩ := outcome_done rfl counted
      rw [List.append_nil]
      exact .finished (following followed) (finishing finished)

/-! ## Steps -/

inductive Taking : Step → Controller → Trace → Except Fault (Option Stats) → Controller → Prop where
  | run (lines : List String) {before after : Controller} {trace : Trace}
      {result : Except Fault Stats} (running : Running lines before trace result after) :
      Taking (.run lines) before trace (result.map some) after
  | execute (command : Command) {before after : Controller} {trace : Trace}
      {result : Except Fault Unit} (executing : Executing command before trace result after) :
      Taking (.execute command) before trace (result.map fun _ => none) after
  | finish {before after : Controller} {trace : Trace} {result : Except Fault Unit}
      (finishing : Finishing before trace result after) :
      Taking .finish before trace (result.map fun _ => none) after

theorem outcome_map {Value Result : Type} {action : Action Value} (change : Value → Result)
    {before after : Controller} {trace : Trace} {result : Except Fault Result}
    (outcome : Outcome (do return change (← action)) before trace result after) :
    ∃ inner, result = inner.map change ∧ Outcome action before trace inner after := by
  rcases outcome_bind outcome with
    ⟨fault, rfl, failed⟩ | ⟨value, first, middle, rest, succeeded, changed, rfl⟩
  · exact ⟨.error fault, rfl, failed⟩
  · obtain ⟨rfl, rfl, rfl⟩ := outcome_done rfl changed
    rw [List.append_nil]
    exact ⟨.ok value, rfl, succeeded⟩

theorem taking {step : Step} {before after : Controller} {trace : Trace}
    {result : Except Fault (Option Stats)} (outcome : Outcome (take step) before trace result after) :
    Taking step before trace result after := by
  cases step with
  | run lines =>
      have same : take (.run lines) = do return some (← run lines) := map_eq_pure_bind _ _
      rw [same] at outcome
      obtain ⟨inner, rfl, ran⟩ := outcome_map some outcome
      exact .run lines (running ran)
  | execute command =>
      obtain ⟨inner, rfl, executed⟩ := outcome_map (fun _ => none) outcome
      exact .execute command (executing executed)
  | finish =>
      obtain ⟨inner, rfl, finished⟩ := outcome_map (fun _ => none) outcome
      exact .finish (finishing finished)

/-! ## Histories -/

/-- A controller as it is before its first step. -/
def fresh (endpoint : Endpoint) (options : Options) : Controller :=
  { endpoint := endpoint, options := options }

/-- Steps one after another, each taken whatever has become of those before it: their results and
the controller after all of them. -/
def converseAll (controller : Controller) :
    List Step → Conversation (List (Except Fault (Option Stats)) × Controller)
  | [] => pure ([], controller)
  | step :: rest => do
    let (result, after) ← controller.converse step
    let (results, last) ← after.converseAll rest
    return (result :: results, last)

/-- A history is over at once, or is one step and then a history from where the step has led. -/
inductive Past : List Step → Controller → Trace → List (Except Fault (Option Stats)) → Controller →
    Prop where
  | none (before : Controller) : Past [] before [] [] before
  | step {step : Step} {rest : List Step} {before middle after : Controller} {trace others : Trace}
      {result : Except Fault (Option Stats)} {results : List (Except Fault (Option Stats))}
      (taking : Taking step before trace result middle)
      (past : Past rest middle others results after) :
      Past (step :: rest) before (trace ++ others) (result :: results) after

theorem past {steps : List Step} {before after : Controller} {trace : Trace}
    {results : List (Except Fault (Option Stats))}
    (yields : (before.converseAll steps).Yields trace (results, after)) :
    Past steps before trace results after := by
  induction steps generalizing before trace results with
  | nil =>
      obtain ⟨rfl, rfl, rfl⟩ := Program.yields_done_pair yields
      exact .none _
  | cons step rest induction =>
      obtain ⟨first, ⟨result, middle⟩, others, taken, went, rfl⟩ := Program.yields_bind yields
      obtain ⟨second, ⟨inner, last⟩, none, lived, ended, rfl⟩ := Program.yields_bind went
      obtain ⟨rfl, rfl, rfl⟩ := Program.yields_done_pair ended
      rw [List.append_nil]
      exact .step (taking taken) (induction lived)

end StandIn.Controller
