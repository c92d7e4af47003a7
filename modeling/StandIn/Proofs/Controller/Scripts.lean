import StandIn.Proofs.Controller.History

/-!
Where a script stops. The lines before that place have been followed with success, the line there is
no command or its command fails, and the script ends with that fault and in the state of that
moment: what comes after the line, and the end of the script, are not looked at.
-/

set_option autoImplicit false

namespace StandIn.Controller

variable {State : Type} {behaviour : Behaviour Wire.Answer State} {controller : Controller}
  {start : State}

/-- What a script still has to do when its first lines have been followed. -/
def runFrom (number : Nat) (lines : List String) : Action Stats := do
  follow number lines
  finish
  return (← get).stats

theorem run_append (earlier rest : List String) :
    run (earlier ++ rest) = (do follow 1 earlier; runFrom (1 + earlier.length) rest) := by
  unfold run runFrom
  rw [follow_append, bind_assoc]

theorem enact_run_append {earlier : List String} (rest : List String)
    (reached : (enact behaviour (follow 1 earlier) controller start).value.1 = .ok ()) :
    enact behaviour (run (earlier ++ rest)) controller start =
      let there := enact behaviour (follow 1 earlier) controller start
      let ended := enact behaviour (runFrom (1 + earlier.length) rest) there.value.2 there.state
      ⟨there.trace ++ ended.trace, ended.value, ended.state⟩ := by
  rw [run_append]
  exact enact_bind_ok _ reached

theorem enact_run_from_unreadable {number : Nat} {line : String} {fault : Fault}
    (read : Command.ofLine number line = .error fault) (later : List String) :
    enact behaviour (runFrom number (line :: later)) controller start =
      ⟨[], (.error fault, controller), start⟩ := by
  unfold runFrom
  rw [follow_cons_error read]
  exact enact_bind_error _ rfl

theorem enact_run_from_failing {number : Nat} {line : String} {command : Command} {fault : Fault}
    (read : Command.ofLine number line = .ok (some command)) (later : List String)
    (failed : (enact behaviour (execute command) controller start).value.1 = .error fault) :
    enact behaviour (runFrom number (line :: later)) controller start =
      let ended := enact behaviour (execute command) controller start
      ⟨ended.trace, (.error fault, ended.value.2), ended.state⟩ := by
  unfold runFrom
  rw [follow_cons_some read, bind_assoc]
  exact enact_bind_error _ failed

/-- A line that is no command ends the script where the lines before it have led. -/
theorem enact_run_unreadable {earlier : List String} {line : String} {fault : Fault}
    (reached : (enact behaviour (follow 1 earlier) controller start).value.1 = .ok ())
    (read : Command.ofLine (earlier.length + 1) line = .error fault) (later : List String) :
    enact behaviour (run (earlier ++ line :: later)) controller start =
      let there := enact behaviour (follow 1 earlier) controller start
      ⟨there.trace, (.error fault, there.value.2), there.state⟩ := by
  rw [Nat.add_comm] at read
  simp only [enact_run_append _ reached, enact_run_from_unreadable read, List.append_nil]

/-- A command that fails ends the script where the command has failed. -/
theorem enact_run_failing {earlier : List String} {line : String} {command : Command} {fault : Fault}
    (reached : (enact behaviour (follow 1 earlier) controller start).value.1 = .ok ())
    (read : Command.ofLine (earlier.length + 1) line = .ok (some command)) (later : List String) :
    let there := enact behaviour (follow 1 earlier) controller start
    let ended := enact behaviour (execute command) there.value.2 there.state
    ended.value.1 = .error fault →
      enact behaviour (run (earlier ++ line :: later)) controller start =
        ⟨there.trace ++ ended.trace, (.error fault, ended.value.2), ended.state⟩ := by
  intro there ended failed
  rw [Nat.add_comm] at read
  have stopped := enact_run_from_failing read later failed
  simp only [enact_run_append _ reached, there, stopped, ended]

/-- The line ends a script that has come to it: it is no command, or its command fails. -/
def EndsScript (behaviour : Behaviour Wire.Answer State) (number : Nat) (line : String)
    (controller : Controller) (state : State) (fault : Fault) : Prop :=
  Command.ofLine number line = .error fault ∨
    ∃ command, Command.ofLine number line = .ok (some command) ∧
      (enact behaviour (execute command) controller state).value.1 = .error fault

/-- Lines that are not all followed with success have a first line that fails. -/
theorem follow_ends {number : Nat} {lines : List String} {fault : Fault}
    (failed : (enact behaviour (follow number lines) controller start).value.1 = .error fault) :
    ∃ earlier line later, lines = earlier ++ line :: later ∧
      let there := enact behaviour (follow number earlier) controller start
      there.value.1 = .ok () ∧
        EndsScript behaviour (number + earlier.length) line there.value.2 there.state fault := by
  induction lines generalizing number controller start with
  | nil => cases failed
  | cons line rest induction =>
      cases read : Command.ofLine number line with
      | error reason =>
          rw [follow_cons_error read] at failed
          cases failed
          exact ⟨[], line, rest, rfl, rfl, .inl read⟩
      | ok found =>
          cases found with
          | none =>
              rw [follow_cons_none read] at failed
              obtain ⟨earlier, last, later, rfl, followed, ends⟩ := induction failed
              refine ⟨line :: earlier, last, later, rfl, ?_⟩
              rw [follow_cons_none read, List.length_cons, Nat.add_comm earlier.length,
                ← Nat.add_assoc]
              exact ⟨followed, ends⟩
          | some command =>
              rw [follow_cons_some read] at failed
              cases executed : (enact behaviour (execute command) controller start).value.1 with
              | error reason =>
                  rw [enact_bind_error _ executed] at failed
                  cases failed
                  exact ⟨[], line, rest, rfl, rfl, .inr ⟨command, read, executed⟩⟩
              | ok =>
                  rw [enact_bind_ok _ executed] at failed
                  obtain ⟨earlier, last, later, rfl, followed, ends⟩ := induction failed
                  refine ⟨line :: earlier, last, later, rfl, ?_⟩
                  rw [follow_cons_some read, enact_bind_ok _ executed, List.length_cons,
                    Nat.add_comm earlier.length, ← Nat.add_assoc]
                  exact ⟨followed, ends⟩

theorem finish_failed {fault : Fault}
    (failed : (enact behaviour (do finish; return (← get).stats : Action Stats) controller
      start).value.1 = .error fault) :
    (enact behaviour finish controller start).value.1 = .error fault := by
  cases finished : (enact behaviour finish controller start).value.1 with
  | error reason =>
      rw [enact_bind_error _ finished] at failed
      cases failed
      rfl
  | ok =>
      -- All that is left is to read the counters, which does not fail.
      rw [enact_bind_ok _ finished] at failed
      cases failed

/-- A script that fails does so at a line, or at its end when all lines have been followed. -/
theorem run_ends {lines : List String} {fault : Fault}
    (failed : (enact behaviour (run lines) controller start).value.1 = .error fault) :
    (∃ earlier line later, lines = earlier ++ line :: later ∧
      let there := enact behaviour (follow 1 earlier) controller start
      there.value.1 = .ok () ∧
        EndsScript behaviour (earlier.length + 1) line there.value.2 there.state fault) ∨
      let there := enact behaviour (follow 1 lines) controller start
      there.value.1 = .ok () ∧
        (enact behaviour finish there.value.2 there.state).value.1 = .error fault := by
  unfold run at failed
  cases followed : (enact behaviour (follow 1 lines) controller start).value.1 with
  | error reason =>
      rw [enact_bind_error _ followed] at failed
      cases failed
      obtain ⟨earlier, line, later, split, reached, ends⟩ := follow_ends followed
      rw [Nat.add_comm 1] at ends
      exact .inl ⟨earlier, line, later, split, reached, ends⟩
  | ok =>
      rw [enact_bind_ok _ followed] at failed
      exact .inr ⟨followed, finish_failed failed⟩

end StandIn.Controller
