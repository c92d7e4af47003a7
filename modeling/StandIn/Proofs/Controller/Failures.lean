import StandIn.Proofs.Controller.Scripts
import StandIn.Proofs.Wire.Failures
import StandIn.Rehearsal

/-!
How actions of a controller fail. An action that ends well has made only calls that went well or
were made good; one that a call has ended reports exactly the fault of that call, which is its
last, and keeps a session only if that call was a heartbeat. Apart from calls only two things end
an action: a device to disable that is not there, and a line that is no command.
-/

set_option autoImplicit false

namespace StandIn.Controller

open Wire (Trace Smooth Stopped calls)

/-- The action was ended by its last call, and only a heartbeat leaves a session open, the one that
it was for. -/
def StoppedBy (trace : Trace) (fault : Fault) (after : Controller) : Prop :=
  ∃ earlier last, Stopped (calls trace) earlier last fault ∧
    ∀ session, after.link = .connected session ↔ ∃ outcome, last = ⟨.heartbeat session, outcome⟩

/-- The calls of an action bear its result out. -/
def Faithful (trace : Trace) (result : Except Fault Unit) (after : Controller) : Prop :=
  match result with
  | .ok () => Smooth (calls trace)
  | .error fault => StoppedBy trace fault after

theorem faithful_told (line : Narration) {trace : Trace} {result : Except Fault Unit}
    {after : Controller} (faithful : Faithful trace result after) :
    Faithful (⟨.narrate line, ()⟩ :: trace) result after := faithful

theorem StoppedBy.behind {first trace : Trace} {fault : Fault} {after : Controller}
    (smooth : Smooth (calls first)) (stoppedBy : StoppedBy trace fault after) :
    StoppedBy (first ++ trace) fault after := by
  obtain ⟨earlier, last, stopped, left⟩ := stoppedBy
  refine ⟨calls first ++ earlier, last, ?_, left⟩
  rw [Wire.calls_append]
  exact smooth.stopped stopped

theorem Faithful.behind {first trace : Trace} {result : Except Fault Unit} {after : Controller}
    (smooth : Smooth (calls first)) (faithful : Faithful trace result after) :
    Faithful (first ++ trace) result after := by
  cases result with
  | ok =>
      unfold Faithful
      rw [Wire.calls_append]
      exact smooth.append faithful
  | error fault => exact StoppedBy.behind smooth faithful

/-- A call that is no heartbeat leaves no session open when it fails. -/
theorem stopped_by_alone {call : Exchange Wire.Answer} {fault : Fault} {after : Controller}
    (isCall : Wire.isCall call = true) (faulted : Wire.fault? call = some fault)
    (other : ∀ session outcome, call ≠ ⟨.heartbeat session, outcome⟩)
    (link : after.link = .disconnected) : StoppedBy [call] fault after := by
  have fatal : ¬ Wire.Lost call := by
    rintro ⟨session, what⟩
    exact other session _ rfl
  refine ⟨[], call, ?_, fun session => ⟨fun connected => ?_, fun ⟨outcome, same⟩ => ?_⟩⟩
  · rw [calls, List.filter_cons_of_pos isCall]
    exact Wire.stopped_alone faulted fatal
  · rw [link] at connected
    cases connected
  · exact absurd same (other session outcome)

theorem Announcing.faithful {before after : Controller} {trace : Trace} {result : Except Fault Unit}
    (announcing : Announcing before trace result after) (link : before.link = .disconnected) :
    Faithful trace result after := by
  cases announcing with
  | opened session => exact .succeeded rfl .nil
  | failed fault => exact stopped_by_alone rfl rfl (fun _ _ same => nomatch same) link

theorem Leaving.faithful {session : Session} {before after : Controller} {trace : Trace}
    {result : Except Fault Unit} (leaving : Leaving session before trace result after)
    (link : before.link = .disconnected) : Faithful trace result after := by
  cases leaving with
  | agreed => exact .succeeded rfl .nil
  | failed fault => exact stopped_by_alone rfl rfl (fun _ _ same => nomatch same) link

theorem Reannouncing.faithful {before after : Controller} {trace : Trace}
    {result : Except Fault Unit} (reannouncing : Reannouncing before trace result after) :
    Faithful trace result after := by
  cases reannouncing with
  | disconnected link announcing => exact announcing.faithful link
  | stuck session link fault => exact (Leaving.failed fault).faithful rfl
  | released session link announcing =>
      have left : Smooth (calls [⟨.disconnect session, .ok ()⟩]) := .succeeded rfl .nil
      exact (announcing.faithful rfl).behind left

/-- A handshake forced by a heartbeat out of time makes the heartbeat good, or fails in its place. -/
theorem Announcing.faithful_lost {session : Session} {what : String} {before after : Controller}
    {trace : Trace} {result : Except Fault Unit} (announcing : Announcing before trace result after)
    (link : before.link = .disconnected) :
    Faithful (⟨.heartbeat session, .error (.timeout what)⟩ :: trace) result after := by
  cases announcing with
  | opened anew => exact .recovered session what _ _ anew .nil
  | failed fault =>
      -- The heartbeat comes before the handshake that has failed, as one more call that was passed.
      obtain ⟨earlier, last, stopped, left⟩ := (Announcing.failed fault).faithful link
      refine ⟨⟨.heartbeat session, .error (.timeout what)⟩ :: earlier, last, ?_, left⟩
      refine ⟨congrArg (List.cons _) stopped.split, stopped.faulted, stopped.fatal, ?_⟩
      intro call member
      rcases List.mem_cons.mp member with rfl | later
      · exact .inr (.heartbeat session what)
      · exact stopped.passed call later

theorem Beating.faithful {before after : Controller} {trace : Trace} {result : Except Fault Unit}
    (beating : Beating before trace result after) : Faithful trace result after := by
  cases beating with
  | idle => exact .nil
  | heard => exact .succeeded rfl .nil
  | failed session link fault fatal =>
      have notLost : ¬ Wire.Lost ⟨.heartbeat session, .error fault⟩ := by
        rintro ⟨⟩
        cases fatal
      refine ⟨[], _, Wire.stopped_alone rfl notLost, fun other => ⟨fun connected => ?_, ?_⟩⟩
      · rw [link] at connected
        cases connected
        exact ⟨_, rfl⟩
      · rintro ⟨outcome, same⟩
        cases same
        exact link
  | lost session link what announcing => exact announcing.faithful_lost rfl

theorem Idling.faithful {tick remaining : Nat} {before after : Controller} {trace : Trace}
    {result : Except Fault Unit} (idling : Idling tick remaining before trace result after) :
    Faithful trace result after := by
  induction idling with
  | done => exact .nil
  | disconnected => exact .nil
  | failed _ _ _ beating => exact faithful_told _ beating.faithful
  | ticked _ _ _ beating _ induction => exact faithful_told _ (induction.behind beating.faithful)

/-- A command that names a device which is not enabled, to disable it. -/
structure Misnamed (command : Command) (before : Controller) (fault : Fault) (device : Device) :
    Prop where
  asked : command = .disable device
  missing : device ∉ before.roster.devices
  named : fault = .notEnabled device

theorem Obeying.faithful {command : Command} {before after : Controller} {trace : Trace}
    {result : Except Fault Unit} (obeying : Obeying command before trace result after) :
    Faithful trace result after ∨ ∃ fault device, Misnamed command before fault device ∧
      trace = [] ∧ result = .error fault ∧ after = before := by
  cases obeying with
  | enable device reannouncing => exact .inl reannouncing.faithful
  | missing device fault disabled =>
      obtain ⟨missing, named⟩ := Roster.disable_eq_error_iff.mp disabled
      exact .inr ⟨fault, device, ⟨rfl, missing, named⟩, rfl, rfl, rfl⟩
  | disable device found roster present reannouncing => exact .inl reannouncing.faithful
  | dieHorribly seconds announcing =>
      have paused : Smooth (calls [⟨.pause seconds, ()⟩]) := .succeeded rfl .nil
      exact .inl (faithful_told _ ((announcing.faithful rfl).behind paused))
  | sleep seconds idling => exact .inl idling.faithful

theorem Executing.faithful {command : Command} {before after : Controller} {trace : Trace}
    {result : Except Fault Unit} (executing : Executing command before trace result after) :
    Faithful trace result after ∨ ∃ fault device, Misnamed command before fault device ∧
      calls trace = [] ∧ result = .error fault ∧ after = before.commanded := by
  cases executing with
  | stopped obeying =>
      rcases obeying.faithful with faithful | ⟨fault, device, misnamed, rfl, same, rfl⟩
      · exact .inl (faithful_told _ faithful)
      · exact .inr ⟨fault, device, ⟨misnamed.1, misnamed.2, misnamed.3⟩, rfl, same, rfl⟩
  | obeyed obeying beating =>
      rcases obeying.faithful with faithful | ⟨_, _, _, _, same, _⟩
      · exact .inl (faithful_told _ (beating.faithful.behind faithful))
      · cases same

theorem Finishing.error_cases {before after : Controller} {trace : Trace} {fault : Fault}
    (finishing : Finishing before trace (.error fault) after) :
    ∃ session, before.link = .connected session ∧
      trace = [⟨.disconnect session, .error fault⟩] ∧ after.link = .disconnected := by
  cases finishing with
  | left session link asked leaving =>
      cases leaving with
      | failed => exact ⟨session, link, rfl, rfl⟩

/-! ## Results of the steps -/

variable {State : Type} (behaviour : Behaviour Wire.Answer State) (start : State)
  (controller : Controller)

theorem execute_ok_smooth {command : Command}
    (succeeded : (enact behaviour (execute command) controller start).value.1 = .ok ()) :
    Smooth (calls (enact behaviour (execute command) controller start).trace) := by
  have outcome := enact_outcome behaviour (execute command) controller start
  rcases (executing outcome).faithful with faithful | ⟨fault, _, _, _, same, _⟩
  · rw [succeeded] at faithful
    exact faithful
  · rw [succeeded] at same
    cases same

theorem execute_error_cases {command : Command} {fault : Fault}
    (failed : (enact behaviour (execute command) controller start).value.1 = .error fault) :
    let ended := enact behaviour (execute command) controller start
    (∃ device, Misnamed command controller fault device ∧ calls ended.trace = [] ∧
      ended.value.2 = controller.commanded) ∨ StoppedBy ended.trace fault ended.value.2 := by
  intro ended
  have outcome := enact_outcome behaviour (execute command) controller start
  rcases (executing outcome).faithful with faithful | ⟨reason, device, misnamed, silent, same, kept⟩
  · rw [failed] at faithful
    exact .inr faithful
  · rw [failed] at same
    cases same
    exact .inl ⟨device, misnamed, silent, kept⟩

theorem finish_error_cases {fault : Fault}
    (failed : (enact behaviour finish controller start).value.1 = .error fault) :
    let ended := enact behaviour finish controller start
    ∃ session, controller.link = .connected session ∧
      ended.trace = [⟨.disconnect session, .error fault⟩] ∧ ended.value.2.link = .disconnected := by
  have outcome := enact_outcome behaviour finish controller start
  rw [failed] at outcome
  exact (finishing outcome).error_cases

/-- For every controller, in whatever state, and every peer. A command that succeeds has made only
calls that succeeded, but for heartbeats out of time that were made good at once. One that fails
has named a device that is not enabled and done nothing but count, or fails with its last call. The
end of a script fails only with its one disconnect. A script fails at a line that is no command,
with nothing done for it, or at one whose command fails, and then neither looks at later lines nor
comes to its end, or it fails at its end. -/
theorem faults_are_exact :
    (∀ command, let ended := enact behaviour (execute command) controller start
      (ended.value.1 = .ok () → Smooth (calls ended.trace)) ∧
        ∀ fault, ended.value.1 = .error fault →
          (∃ device, Misnamed command controller fault device ∧ calls ended.trace = [] ∧
            ended.value.2 = controller.commanded) ∨
          StoppedBy ended.trace fault ended.value.2) ∧
    (∀ fault, let ended := enact behaviour finish controller start
      ended.value.1 = .error fault → ∃ session, controller.link = .connected session ∧
        ended.trace = [⟨.disconnect session, .error fault⟩] ∧
          ended.value.2.link = .disconnected) ∧
    (∀ earlier line later, let there := enact behaviour (follow 1 earlier) controller start
      there.value.1 = .ok () →
        (∀ fault, Command.ofLine (earlier.length + 1) line = .error fault →
          enact behaviour (run (earlier ++ line :: later)) controller start =
            ⟨there.trace, (.error fault, there.value.2), there.state⟩) ∧
        (∀ command, Command.ofLine (earlier.length + 1) line = .ok (some command) →
          let ended := enact behaviour (execute command) there.value.2 there.state
          ∀ fault, ended.value.1 = .error fault →
            enact behaviour (run (earlier ++ line :: later)) controller start =
              ⟨there.trace ++ ended.trace, (.error fault, ended.value.2), ended.state⟩)) ∧
    (∀ lines fault, (enact behaviour (run lines) controller start).value.1 = .error fault →
      (∃ earlier line later, lines = earlier ++ line :: later ∧
        let there := enact behaviour (follow 1 earlier) controller start
        there.value.1 = .ok () ∧
          EndsScript behaviour (earlier.length + 1) line there.value.2 there.state fault) ∨
      let there := enact behaviour (follow 1 lines) controller start
      there.value.1 = .ok () ∧
        (enact behaviour finish there.value.2 there.state).value.1 = .error fault) := by
  refine ⟨fun command => ⟨?_, fun fault failed => ?_⟩, fun fault failed => ?_, ?_, ?_⟩
  · exact execute_ok_smooth behaviour start controller
  · exact execute_error_cases behaviour start controller failed
  · exact finish_error_cases behaviour start controller failed
  · intro earlier line later there reached
    constructor
    · intro fault read
      exact enact_run_unreadable reached read later
    · intro command read ended fault failed
      exact enact_run_failing reached read later failed
  · intro lines fault failed
    exact run_ends failed

/-- The first heartbeat runs out of time, and so does the handshake that should make it good. -/
example :
    let endpoint : Endpoint := ⟨"localhost", 1870, 5001⟩
    let controller : Controller :=
      { endpoint := endpoint, link := .connected ⟨endpoint, 4000, 4001⟩ }
    let losing : Rehearsal :=
      { handshakes := [some (.error (.timeout "a session"))]
        heartbeats := [some (.timeout "a heartbeat")] }
    let ended := enact Rehearsal.answer (execute (.sleep 2)) controller losing
    ended.value.1 = .error (.timeout "a session") ∧ ended.value.2.link = .disconnected :=
  ⟨rfl, rfl⟩

end StandIn.Controller
