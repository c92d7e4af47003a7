import StandIn.Proofs.Command.Script
import StandIn.Proofs.Controller.Scripts

/-!
Following lines is carrying out the script on them: all its commands in order up to the first that
fails, and then its fault if it has one. Nothing else of the lines has any effect.
-/

set_option autoImplicit false

namespace StandIn.Controller

def executeAll : List Command → Action Unit
  | [] => pure ()
  | command :: rest => do
    execute command
    executeAll rest

def carryOut (script : Script) : Action Unit := do
  executeAll script.commands
  MonadExcept.ofExcept script.ending

theorem follow_carries_out (number : Nat) (lines : List String) :
    follow number lines = carryOut (Script.read number lines) := by
  induction lines generalizing number with
  | nil => exact (pure_bind _ _).symm
  | cons line rest induction =>
      cases reading : Command.ofLine number line with
      | error fault =>
          rw [follow_cons_error reading, Script.read_cons_error reading]
          exact (pure_bind _ _).symm
      | ok found =>
          cases found with
          | none => rw [follow_cons_none reading, Script.read_cons_none reading, induction]
          | some command =>
              rw [follow_cons_some reading, Script.read_cons_some reading, induction, carryOut,
                carryOut, executeAll, bind_assoc]

variable {State : Type} {behaviour : Behaviour Wire.Answer State} {controller : Controller}
  {start : State}

theorem enact_ending (ending : Except Fault Unit) :
    enact behaviour (MonadExcept.ofExcept ending) controller start =
      ⟨[], (ending, controller), start⟩ := by
  cases ending <;> rfl

variable (behaviour controller start)

/-- What becomes of lines is what becomes of their commands, and then of their fault. -/
theorem enact_follow (number : Nat) (lines : List String) :
    enact behaviour (follow number lines) controller start =
      let script := Script.read number lines
      let executed := enact behaviour (executeAll script.commands) controller start
      ⟨executed.trace, (executed.value.1.bind fun _ => script.ending, executed.value.2),
        executed.state⟩ := by
  rw [follow_carries_out, carryOut]
  cases done : (enact behaviour (executeAll (Script.read number lines).commands) controller
    start).value.1 with
  | error fault =>
      rw [enact_bind_error _ done]
      simp only [done, Except.bind]
  | ok =>
      rw [enact_bind_ok _ done]
      simp only [done, Except.bind, enact_ending, List.append_nil]

variable {behaviour controller start}

/-- Lines without a fault are no more than their commands. -/
theorem enact_follow_readable {number : Nat} {lines : List String}
    (ending : (Script.read number lines).ending = .ok ()) :
    enact behaviour (follow number lines) controller start =
      enact behaviour (executeAll (Script.read number lines).commands) controller start := by
  rw [enact_follow]
  simp only [ending]
  generalize enact behaviour (executeAll (Script.read number lines).commands) controller
    start = executed
  obtain ⟨trace, ⟨result, after⟩, state⟩ := executed
  cases result <;> rfl

theorem follow_succeeds_iff {number : Nat} {lines : List String} :
    (enact behaviour (follow number lines) controller start).value.1 = .ok () ↔
      (enact behaviour (executeAll (Script.read number lines).commands) controller start).value.1 =
        .ok () ∧ (Script.read number lines).ending = .ok () := by
  rw [enact_follow]
  cases done : (enact behaviour (executeAll (Script.read number lines).commands) controller
    start).value.1 <;> simp [Except.bind, done]

/-- A script with a fault ends with the fault of a command, or else with its own. -/
theorem enact_run_from_ending {number : Nat} {lines : List String} {fault : Fault}
    (ending : (Script.read number lines).ending = .error fault) :
    enact behaviour (runFrom number lines) controller start =
      let executed := enact behaviour (executeAll (Script.read number lines).commands) controller start
      ⟨executed.trace, (executed.value.1.bind fun _ => .error fault, executed.value.2),
        executed.state⟩ := by
  have followed := enact_follow behaviour controller start number lines
  simp only [ending] at followed
  cases executed : (enact behaviour (executeAll (Script.read number lines).commands) controller
    start).value.1 with
  | error other =>
      simp only [executed, Except.bind] at followed ⊢
      rw [runFrom, enact_bind_error _ (by rw [followed]), followed]
  | ok =>
      simp only [executed, Except.bind] at followed ⊢
      rw [runFrom, enact_bind_error _ (by rw [followed]), followed]

variable (behaviour controller start) in
/-- Scripts that have the same commands do the same, each up to its own fault. -/
theorem enact_run_from_apart {number place : Nat} {first second : List String} {fault other : Fault}
    (commands : (Script.read number first).commands = (Script.read place second).commands)
    (early : (Script.read number first).ending = .error fault)
    (late : (Script.read place second).ending = .error other) :
    let executed := enact behaviour (executeAll (Script.read number first).commands) controller start
    let near := enact behaviour (runFrom number first) controller start
    let far := enact behaviour (runFrom place second) controller start
    near.trace = far.trace ∧ near.value.2 = far.value.2 ∧ near.state = far.state ∧
      (∀ reason, executed.value.1 = .error reason →
        near.value.1 = .error reason ∧ far.value.1 = .error reason) ∧
      (executed.value.1 = .ok () → near.value.1 = .error fault ∧ far.value.1 = .error other) := by
  intro executed near far
  have nearby : near = _ := enact_run_from_ending early
  have faraway : far = _ := enact_run_from_ending late
  rw [← commands] at faraway
  rw [nearby, faraway]
  refine ⟨rfl, rfl, rfl, ?_, ?_⟩
  · intro reason failed
    simp only [executed] at failed
    simp [failed, Except.bind]
  · intro succeeded
    simp only [executed] at succeeded
    simp [succeeded, Except.bind]

/-- The script comes to the line of this number, which says nothing that could be done. -/
def StuckAt (behaviour : Behaviour Wire.Answer State) (lines : List String)
    (controller : Controller) (start : State) (number : Nat) (reason : String) : Prop :=
  ∃ earlier line later, lines = earlier ++ line :: later ∧ number = earlier.length + 1 ∧
    (enact behaviour (follow 1 earlier) controller start).value.1 = .ok () ∧
      Command.ofLine number line = .error (.scriptLine number reason)

theorem stuck_at_iff {lines : List String} {number : Nat} {reason : String} :
    StuckAt behaviour lines controller start number reason ↔
      (enact behaviour (executeAll (Script.read 1 lines).commands) controller start).value.1 =
        .ok () ∧ (Script.read 1 lines).ending = .error (.scriptLine number reason) := by
  constructor
  · rintro ⟨earlier, line, later, rfl, rfl, followed, unreadable⟩
    obtain ⟨executed, ending⟩ := follow_succeeds_iff.mp followed
    rw [Nat.add_comm] at unreadable
    rw [Script.read_append, Script.read_cons_error unreadable, Script.append, ending]
    simp only [List.append_nil, Nat.add_comm, and_true]
    exact executed
  · rintro ⟨executed, ended⟩
    obtain ⟨earlier, line, later, split, unreadable, same⟩ := Script.read_ending_error ended
    have place : number = 1 + earlier.length := Command.of_line_number unreadable
    refine ⟨earlier, line, later, split, by omega, ?_, place ▸ unreadable⟩
    rw [follow_succeeds_iff, same]
    exact ⟨executed, rfl⟩

theorem not_stuck_of_failed {lines : List String} {fault : Fault}
    (failed : (enact behaviour (executeAll (Script.read 1 lines).commands) controller
      start).value.1 = .error fault) (number : Nat) (reason : String) :
    ¬ StuckAt behaviour lines controller start number reason := by
  intro stuck
  rw [stuck_at_iff, failed] at stuck
  cases stuck.1

end StandIn.Controller
