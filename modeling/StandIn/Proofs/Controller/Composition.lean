import StandIn.Proofs.Controller.Moves
import StandIn.Proofs.Controller.Orders

/-!
Two scripts in a row and the one script made of both. They differ only at the seam: a script that
keeps its session says so at its end, and the lines of the second script are numbered anew. Of the
whole script only the very end may ask to be let go.
-/

set_option autoImplicit false

namespace StandIn.Controller

open Wire (Trace calls)

variable {State : Type} {behaviour : Behaviour Wire.Answer State} {controller : Controller}
  {start : State}

/-- What is told does not reach the peer. -/
def Unheard (behaviour : Behaviour Wire.Answer State) : Prop :=
  ∀ line state, (behaviour (.narrate line) state).2 = state

/-! ## The end of a script -/

/-- What is told at the end of a script that keeps its session. -/
def keeping : Link → Trace
  | .disconnected => []
  | .connected session => [⟨.narrate (.leftOpen session.statePort), ()⟩]

theorem calls_keeping (link : Link) : calls (keeping link) = [] := by
  cases link <;> rfl

theorem enact_finish_disconnected (link : controller.link = .disconnected) :
    enact behaviour finish controller start = ⟨[], (.ok (), controller), start⟩ := by
  cases controller
  cases link
  rfl

theorem enact_finish_connected {session : Session} (link : controller.link = .connected session)
    (kept : controller.options.disconnectOnExit = false) :
    enact behaviour finish controller start =
      ⟨[⟨.narrate (.leftOpen session.statePort), ()⟩], (.ok (), controller),
        (behaviour (.narrate (.leftOpen session.statePort)) start).2⟩ := by
  obtain ⟨endpoint, ⟨disconnectOnExit⟩, roster, link, stats⟩ := controller
  cases link
  cases kept
  rfl

variable (behaviour start) in
theorem enact_finish_kept (kept : controller.options.disconnectOnExit = false) :
    (enact behaviour finish controller start).trace = keeping controller.link ∧
      (enact behaviour finish controller start).value = (.ok (), controller) ∧
      (Unheard behaviour → (enact behaviour finish controller start).state = start) := by
  cases link : controller.link with
  | disconnected =>
      rw [enact_finish_disconnected link]
      exact ⟨rfl, rfl, fun _ => rfl⟩
  | connected session =>
      rw [enact_finish_connected link kept]
      exact ⟨rfl, rfl, fun unheard => unheard _ start⟩

theorem follow_options (number : Nat) (lines : List String) :
    (enact behaviour (follow number lines) controller start).value.2.options = controller.options :=
  (following (enact_outcome behaviour (follow number lines) controller start)).moves.options

theorem enact_finish_counted :
    enact behaviour (do finish; return (← get).stats : Action Stats) controller start =
      let ended := enact behaviour finish controller start
      ⟨ended.trace, (ended.value.1.map fun _ => ended.value.2.stats, ended.value.2),
        ended.state⟩ := by
  have counted : ∀ there state,
      enact behaviour (do return (← get).stats : Action Stats) there state =
        ⟨[], (.ok there.stats, there), state⟩ := fun _ _ => rfl
  cases finished : (enact behaviour finish controller start).value.1 with
  | error fault =>
      rw [enact_bind_error _ finished]
      simp only [finished, Except.map]
  | ok =>
      rw [enact_bind_ok _ finished]
      simp only [finished, Except.map, counted, List.append_nil]

/-- A script that has been followed to its end goes on with the end. -/
theorem enact_run_followed {lines : List String}
    (followed : (enact behaviour (follow 1 lines) controller start).value.1 = .ok ()) :
    enact behaviour (run lines) controller start =
      let there := enact behaviour (follow 1 lines) controller start
      let ended := enact behaviour finish there.value.2 there.state
      ⟨there.trace ++ ended.trace, (ended.value.1.map fun _ => ended.value.2.stats, ended.value.2),
        ended.state⟩ := by
  rw [run, enact_bind_ok _ followed]
  simp only [enact_finish_counted]

theorem enact_run_stopped {lines : List String} {fault : Fault}
    (stopped : (enact behaviour (follow 1 lines) controller start).value.1 = .error fault) :
    enact behaviour (run lines) controller start =
      let ended := enact behaviour (follow 1 lines) controller start
      ⟨ended.trace, (.error fault, ended.value.2), ended.state⟩ :=
  enact_bind_error _ stopped

/-- Without a disconnect at its end a script fails only at a line. -/
theorem follow_stopped {lines : List String} {fault : Fault}
    (kept : controller.options.disconnectOnExit = false)
    (failed : (enact behaviour (run lines) controller start).value.1 = .error fault) :
    (enact behaviour (follow 1 lines) controller start).value.1 = .error fault := by
  cases followed : (enact behaviour (follow 1 lines) controller start).value.1 with
  | error other =>
      rw [enact_run_stopped followed] at failed
      cases failed
      rfl
  | ok =>
      have still : (enact behaviour (follow 1 lines) controller
          start).value.2.options.disconnectOnExit = false := by rw [follow_options, kept]
      have finished := (enact_finish_kept behaviour
        (enact behaviour (follow 1 lines) controller start).state still).2.1
      rw [enact_run_followed followed] at failed
      simp only [finished, Except.map] at failed
      cases failed

theorem follow_append_stopped {first : List String} {fault : Fault}
    (stopped : (enact behaviour (follow 1 first) controller start).value.1 = .error fault)
    (second : List String) :
    enact behaviour (run (first ++ second)) controller start =
      enact behaviour (run first) controller start := by
  rw [run_append, enact_run_stopped stopped]
  exact enact_bind_error _ stopped

/-! ## Lines further down -/

/-- Of two results for the same lines the second is for lines so many places further down. -/
def Postponed (behaviour : Behaviour Wire.Answer State) (lines : List String)
    (controller : Controller) (start : State) (shift : Nat) (near far : Except Fault Stats) : Prop :=
  (far = near ∧ ∀ number reason, ¬ StuckAt behaviour lines controller start number reason) ∨
    ∃ number reason, StuckAt behaviour lines controller start number reason ∧
      near = .error (.scriptLine number reason) ∧ far = .error (.scriptLine (number + shift) reason)

variable (behaviour controller start) in
theorem run_from_moved (shift : Nat) (lines : List String) :
    let near := enact behaviour (run lines) controller start
    let far := enact behaviour (runFrom (1 + shift) lines) controller start
    far.trace = near.trace ∧ far.value.2 = near.value.2 ∧ far.state = near.state ∧
      Postponed behaviour lines controller start shift near.value.1 far.value.1 := by
  intro near far
  have moved := Script.read_moved 1 shift lines
  rcases (Script.read 1 lines).moved_cases with ⟨number, reason, ended⟩ | ⟨settled, other⟩
  · have early : (Script.read 1 lines).ending = .error (.scriptLine number reason) :=
      (congrArg Script.ending (Script.read_moved 1 0 lines)).trans (ended 0)
    have late : (Script.read (1 + shift) lines).ending =
        .error (.scriptLine (number + shift) reason) :=
      (congrArg Script.ending moved).trans (ended shift)
    have commands : (Script.read 1 lines).commands = (Script.read (1 + shift) lines).commands :=
      (congrArg Script.commands moved).symm
    obtain ⟨trace, after, state, failed, succeeded⟩ :=
      enact_run_from_apart behaviour controller start commands early late
    refine ⟨trace.symm, after.symm, state.symm, ?_⟩
    cases executed : (enact behaviour (executeAll (Script.read 1 lines).commands) controller
      start).value.1 with
    | error fault =>
        obtain ⟨nearby, faraway⟩ := failed fault executed
        exact .inl ⟨faraway.trans nearby.symm, not_stuck_of_failed executed⟩
    | ok =>
        obtain ⟨nearby, faraway⟩ := succeeded executed
        exact .inr ⟨number, reason, stuck_at_iff.mpr ⟨executed, early⟩, nearby, faraway⟩
  · have action : runFrom (1 + shift) lines = run lines := by
      rw [runFrom, run, follow_carries_out, follow_carries_out, moved, settled]
    simp only [far, action]
    refine ⟨rfl, rfl, rfl, .inl ⟨rfl, ?_⟩⟩
    intro number reason stuck
    exact other number reason (stuck_at_iff.mp stuck).2

/-! ## Two scripts in a row -/

/-- A script, another one after it, and the one script made of both, of which the first keeps its
session. -/
structure Continued (behaviour : Behaviour Wire.Answer State) (second : List String) (shift : Nat)
    (early late whole : Finished Wire.Answer State (Except Fault Stats × Controller)) : Prop where
  trace : ∃ shared, early.trace = shared ++ keeping early.value.2.link ∧
    whole.trace = shared ++ late.trace
  calls : calls whole.trace = calls early.trace ++ calls late.trace
  after : whole.value.2 = late.value.2
  state : whole.state = late.state
  result : Postponed behaviour second early.value.2 early.state shift late.value.1 whole.value.1

/-- The whole script does what is left of it from where its first lines have led. -/
theorem enact_run_append_moved {first : List String}
    (followed : (enact behaviour (follow 1 first) controller start).value.1 = .ok ())
    (second : List String) :
    let there := enact behaviour (follow 1 first) controller start
    let rest := enact behaviour (run second) there.value.2 there.state
    let whole := enact behaviour (run (first ++ second)) controller start
    whole.trace = there.trace ++ rest.trace ∧ whole.value.2 = rest.value.2 ∧
      whole.state = rest.state ∧
      Postponed behaviour second there.value.2 there.state first.length rest.value.1
        whole.value.1 := by
  intro there rest whole
  obtain ⟨trace, after, state, result⟩ :=
    run_from_moved behaviour there.value.2 there.state first.length second
  have appended : whole = _ := enact_run_append second followed
  rw [appended]
  refine ⟨?_, after, state, result⟩
  simp only [there, rest, trace]

theorem continued {first : List String} {stats : Stats} (unheard : Unheard behaviour)
    (kept : controller.options.disconnectOnExit = false)
    (succeeded : (enact behaviour (run first) controller start).value.1 = .ok stats)
    (second : List String) :
    let early := enact behaviour (run first) controller start
    Continued behaviour second first.length early
      (enact behaviour (run second) early.value.2 early.state)
      (enact behaviour (run (first ++ second)) controller start) := by
  cases followed : (enact behaviour (follow 1 first) controller start).value.1 with
  | error fault =>
      rw [enact_run_stopped followed] at succeeded
      cases succeeded
  | ok =>
      obtain ⟨trace, after, state, result⟩ := enact_run_append_moved followed second
      have still : (enact behaviour (follow 1 first) controller
          start).value.2.options.disconnectOnExit = false := by rw [follow_options, kept]
      obtain ⟨told, finished, stayed⟩ := enact_finish_kept behaviour
        (enact behaviour (follow 1 first) controller start).state still
      have ran := enact_run_followed followed
      simp only [told, finished, stayed unheard] at ran
      rw [ran]
      refine ⟨⟨_, rfl, trace⟩, ?_, after, state, result⟩
      rw [trace, Wire.calls_append, Wire.calls_append, calls_keeping, List.append_nil]

/-! ## The disconnect at the end -/

variable (behaviour start) in
theorem enact_finish_asked {session : Session} (link : controller.link = .connected session)
    (asked : controller.options.disconnectOnExit = true) :
    ∃ outcome, (enact behaviour finish controller start).trace =
      [⟨.disconnect session, outcome⟩] := by
  have ended := finishing (enact_outcome behaviour finish controller start)
  generalize enact behaviour finish controller start = finished at ended
  obtain ⟨trace, ⟨result, after⟩, state⟩ := finished
  cases ended with
  | disconnected closed => cases link.symm.trans closed
  | kept _ _ kept => cases asked.symm.trans kept
  | left other same _ leaving =>
      cases link.symm.trans same
      cases leaving with
      | agreed => exact ⟨_, rfl⟩
      | failed fault => exact ⟨_, rfl⟩

/-- A session that is open after the last line is left there, and by nothing else at the end. -/
theorem run_leaves {lines : List String} {session : Session}
    (asked : controller.options.disconnectOnExit = true)
    (followed : (enact behaviour (follow 1 lines) controller start).value.1 = .ok ())
    (link : (enact behaviour (follow 1 lines) controller start).value.2.link = .connected session) :
    ∃ outcome, (enact behaviour (run lines) controller start).trace =
      (enact behaviour (follow 1 lines) controller start).trace ++
        [⟨.disconnect session, outcome⟩] := by
  have still : (enact behaviour (follow 1 lines) controller
      start).value.2.options.disconnectOnExit = true := by rw [follow_options, asked]
  obtain ⟨outcome, left⟩ := enact_finish_asked behaviour
    (enact behaviour (follow 1 lines) controller start).state link still
  refine ⟨outcome, ?_⟩
  rw [enact_run_followed followed]
  simp only [left]

/-- Without an open session after the last line, or after a fault, nothing comes behind the lines. -/
theorem run_leaves_nothing {lines : List String}
    (idle : (∃ fault, (enact behaviour (follow 1 lines) controller start).value.1 = .error fault) ∨
      (enact behaviour (follow 1 lines) controller start).value.2.link = .disconnected) :
    (enact behaviour (run lines) controller start).trace =
      (enact behaviour (follow 1 lines) controller start).trace := by
  cases followed : (enact behaviour (follow 1 lines) controller start).value.1 with
  | error fault => rw [enact_run_stopped followed]
  | ok =>
      rcases idle with ⟨fault, failed⟩ | link
      · rw [followed] at failed
        cases failed
      · rw [enact_run_followed followed]
        simp only [enact_finish_disconnected link, List.append_nil]

/-! ## Composition -/

/-- A script made of two, and its parts from the same start. When the end of a script keeps the
session, a first part that fails is all there is, and after one that succeeds the second part goes
on as if nothing had been between them, but for the line that tells of the session. Whatever the
options say, the whole script executes the commands of the first part, up to the first fault, and
goes on with the second part run as a script; so with a disconnect at the end of a script there is
one at most, behind the very last line. -/
theorem scripts_compose (behaviour : Behaviour Wire.Answer State) (start : State)
    (controller : Controller) (first second : List String) :
    let whole := enact behaviour (run (first ++ second)) controller start
    let script := Script.read 1 first
    let executed := enact behaviour (executeAll script.commands) controller start
    let rest := enact behaviour (run second) executed.value.2 executed.state
    let there := enact behaviour (follow 1 (first ++ second)) controller start
    (controller.options.disconnectOnExit = false →
      let early := enact behaviour (run first) controller start
      let late := enact behaviour (run second) early.value.2 early.state
      (∀ fault, early.value.1 = .error fault → whole = early) ∧
        (Unheard behaviour → ∀ stats, early.value.1 = .ok stats →
          Continued behaviour second first.length early late whole)) ∧
    (∀ fault, executed.value.1 = .error fault ∨
        executed.value.1 = .ok () ∧ script.ending = .error fault →
      whole = ⟨executed.trace, (.error fault, executed.value.2), executed.state⟩) ∧
    (executed.value.1 = .ok () → script.ending = .ok () →
      whole.trace = executed.trace ++ rest.trace ∧ whole.value.2 = rest.value.2 ∧
        whole.state = rest.state ∧
        Postponed behaviour second executed.value.2 executed.state first.length rest.value.1
          whole.value.1) ∧
    (controller.options.disconnectOnExit = true →
      (∀ session, there.value.1 = .ok () → there.value.2.link = .connected session →
        ∃ outcome, whole.trace = there.trace ++ [⟨.disconnect session, outcome⟩]) ∧
      ((∃ fault, there.value.1 = .error fault) ∨ there.value.2.link = .disconnected →
        whole.trace = there.trace)) := by
  intro whole script executed rest there
  have followed := enact_follow behaviour controller start 1 first
  refine ⟨?_, ?_, ?_, ?_⟩
  · intro kept early late
    refine ⟨?_, ?_⟩
    · intro fault failed
      exact follow_append_stopped (follow_stopped kept failed) second
    · intro unheard stats succeeded
      exact continued unheard kept succeeded second
  · intro fault ended
    have stopped : enact behaviour (follow 1 first) controller start =
        ⟨executed.trace, (.error fault, executed.value.2), executed.state⟩ := by
      rw [followed]
      rcases ended with failed | ⟨succeeded, ending⟩
      · simp only [executed, script] at failed
        simp only [failed, Except.bind, executed, script]
      · simp only [executed, script] at succeeded ending
        simp only [succeeded, ending, Except.bind, executed, script]
    have failed : (enact behaviour (follow 1 first) controller start).value.1 = .error fault := by
      rw [stopped]
    simp only [whole]
    rw [follow_append_stopped failed, enact_run_stopped failed, stopped]
  · intro succeeded ending
    have reached : enact behaviour (follow 1 first) controller start = executed :=
      enact_follow_readable ending
    have followedThere : (enact behaviour (follow 1 first) controller start).value.1 = .ok () := by
      rw [reached, succeeded]
    have appended := enact_run_append_moved followedThere second
    rw [reached] at appended
    exact appended
  · intro asked
    exact ⟨fun session followed link => run_leaves asked followed link, run_leaves_nothing⟩

/-- A peer that agrees to everything, and a second script whose last line is no command. -/
theorem scripts_compose_agreed :
    let agreeing : Behaviour Wire.Answer Nat := fun
      | .narrate _, calls => ((), calls)
      | .handshake endpoint _, calls => (.ok ⟨endpoint, 4002, 4003⟩, calls + 1)
      | .heartbeat _, calls => (.ok (), calls + 1)
      | .disconnect _, calls => (.ok (), calls + 1)
      | .pause _, calls => ((), calls + 1)
    let early := enact agreeing (run ["enable light L1"]) (fresh ⟨"localhost", 1870, 5001⟩ {}) 0
    let late := enact agreeing (run ["sleep 1", "wake L1"]) early.value.2 early.state
    let whole := enact agreeing (run (["enable light L1"] ++ ["sleep 1", "wake L1"]))
      (fresh ⟨"localhost", 1870, 5001⟩ {}) 0
    Unheard agreeing ∧ Continued agreeing ["sleep 1", "wake L1"] 1 early late whole := by
  intro agreeing early late whole
  have unheard : Unheard agreeing := fun _ _ => rfl
  have read : Command.ofLine 1 "enable light L1" = .ok (some (.enable ⟨"light", "L1"⟩)) := by
    decide
  have succeeded : (enact agreeing (run ["enable light L1"])
      (fresh ⟨"localhost", 1870, 5001⟩ {}) 0).value.1 = .ok ⟨1, 1, 1, 0, 0⟩ := by
    rw [run, follow_cons_some read]
    rfl
  have composed := scripts_compose agreeing 0 (fresh ⟨"localhost", 1870, 5001⟩ {})
    ["enable light L1"] ["sleep 1", "wake L1"]
  exact ⟨unheard, (composed.1 rfl).2 unheard _ succeeded⟩

end StandIn.Controller
