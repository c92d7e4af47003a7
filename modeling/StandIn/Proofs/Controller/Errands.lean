import StandIn.Proofs.Controller.Beats
import StandIn.Proofs.Controller.Chronicle
import StandIn.Proofs.Controller.Progress

/-!
What each command may do on the wire. A command has a list of errands, which the link at its
beginning decides and no answer of the peer changes; the errands are run in order up to the first
that fails, and there is no other call. The errand of a heartbeat includes the one handshake that a
timeout asks for.
-/

set_option autoImplicit false

namespace StandIn.Controller

open Wire (Trace calls isHeard isLoss isLeave isOpening)

inductive Errand where
  | leave
  | pause (seconds : Nat)
  | announce
  | beat
deriving DecidableEq

/-- Before the devices are announced anew an open session is left. -/
def parting : Link → List Errand
  | .disconnected => []
  | .connected _ => [.leave]

/-- The errands of a command that is begun with this link. -/
def errands (link : Link) : Command → List Errand
  | .enable _ => parting link ++ [.announce, .beat]
  | .disable _ => parting link ++ [.announce, .beat]
  | .dieHorribly seconds => [.pause seconds, .announce, .beat]
  | .sleep seconds =>
    match link with
    | .disconnected => []
    | .connected _ => List.replicate (seconds + 1) .beat

/-- The errands without those of the heartbeat that every command ends with. -/
def tasks (link : Link) : Command → List Errand
  | .enable _ => parting link ++ [.announce]
  | .disable _ => parting link ++ [.announce]
  | .dieHorribly seconds => [.pause seconds, .announce]
  | .sleep seconds =>
    match link with
    | .disconnected => []
    | .connected _ => List.replicate seconds .beat

theorem errands_eq_tasks {link : Link} {command : Command}
    (beats : (∃ session, link = .connected session) ∨ command.announces = true) :
    errands link command = tasks link command ++ [.beat] := by
  cases command with
  | enable device => simp [errands, tasks]
  | disable device => simp [errands, tasks]
  | dieHorribly seconds => rfl
  | sleep seconds =>
      rcases beats with ⟨session, rfl⟩ | announces
      · exact List.replicate_succ'
      · cases announces

theorem errands_eq_tasks_silent {link : Link} {command : Command}
    (silent : ¬ ((∃ session, link = .connected session) ∨ command.announces = true)) :
    errands link command = tasks link command := by
  cases link with
  | connected session => exact absurd (.inl ⟨session, rfl⟩) silent
  | disconnected =>
      cases command with
      | sleep seconds => rfl
      | _ => exact absurd (.inr rfl) silent

theorem errands_begin_with_tasks (link : Link) (command : Command) :
    ∃ rest, errands link command = tasks link command ++ rest := by
  by_cases beats : (∃ session, link = .connected session) ∨ command.announces = true
  · exact ⟨[.beat], errands_eq_tasks beats⟩
  · exact ⟨[], by rw [errands_eq_tasks_silent beats, List.append_nil]⟩

section Errands

variable (endpoint : Endpoint) (devices : List Device)

/-- The calls of an errand that succeeds, and the link before and after them. -/
inductive Errand.Done : Errand → Link → Trace → Link → Prop where
  | left (session : Session) :
      Done .leave (.connected session) [⟨.disconnect session, .ok ()⟩] .disconnected
  | paused (seconds : Nat) (link : Link) :
      Done (.pause seconds) link [⟨.pause seconds, ()⟩] .disconnected
  | announced (session : Session) :
      Done .announce .disconnected [⟨.handshake endpoint devices, .ok session⟩] (.connected session)
  | heard (session : Session) :
      Done .beat (.connected session) [⟨.heartbeat session, .ok ()⟩] (.connected session)
  | renewed (session anew : Session) (what : String) :
      Done .beat (.connected session)
        [⟨.heartbeat session, .error (.timeout what)⟩, ⟨.handshake endpoint devices, .ok anew⟩]
        (.connected anew)

/-- The calls of an errand that fails, the last of which has met the fault. -/
inductive Errand.Failed : Errand → Link → Trace → Fault → Link → Prop where
  | kept (session : Session) (fault : Fault) :
      Failed .leave (.connected session) [⟨.disconnect session, .error fault⟩] fault .disconnected
  | refused (fault : Fault) :
      Failed .announce .disconnected [⟨.handshake endpoint devices, .error fault⟩] fault .disconnected
  | broken (session : Session) (fault : Fault) (fatal : fault.isTimeout = false) :
      Failed .beat (.connected session) [⟨.heartbeat session, .error fault⟩] fault
        (.connected session)
  | lost (session : Session) (what : String) (fault : Fault) :
      Failed .beat (.connected session)
        [⟨.heartbeat session, .error (.timeout what)⟩, ⟨.handshake endpoint devices, .error fault⟩]
        fault .disconnected

/-- Errands run in order, up to the first that fails. -/
inductive Performed : List Errand → Link → Trace → Except Fault Unit → Link → Prop where
  | nothing (link : Link) : Performed [] link [] (.ok ()) link
  | done {errand : Errand} {rest : List Errand} {link middle after : Link} {first others : Trace}
      {result : Except Fault Unit} (done : errand.Done endpoint devices link first middle)
      (performed : Performed rest middle others result after) :
      Performed (errand :: rest) link (first ++ others) result after
  | failed {errand : Errand} (rest : List Errand) {link after : Link} {first : Trace}
      {fault : Fault} (failed : errand.Failed endpoint devices link first fault after) :
      Performed (errand :: rest) link first (.error fault) after

end Errands

variable {endpoint : Endpoint} {devices : List Device} {first second : List Errand}
  {link middle after : Link} {trace others : Trace} {result : Except Fault Unit} {fault : Fault}

theorem Errand.Done.performed {errand : Errand} (done : errand.Done endpoint devices link trace after) :
    Performed endpoint devices [errand] link trace (.ok ()) after := by
  have single := Performed.done done (.nothing after)
  rwa [List.append_nil] at single

theorem Errand.Failed.performed {errand : Errand}
    (failed : errand.Failed endpoint devices link trace fault after) :
    Performed endpoint devices [errand] link trace (.error fault) after :=
  .failed [] failed

theorem Performed.append (early : Performed endpoint devices first link trace (.ok ()) middle)
    (late : Performed endpoint devices second middle others result after) :
    Performed endpoint devices (first ++ second) link (trace ++ others) result after := by
  generalize success : Except.ok () = ended at early
  induction early with
  | nothing => exact late
  | done done _ induction =>
      rw [List.append_assoc]
      exact .done done (induction late success)
  | failed => cases success

theorem Performed.stop (stopped : Performed endpoint devices first link trace (.error fault) after)
    (second : List Errand) :
    Performed endpoint devices (first ++ second) link trace (.error fault) after := by
  generalize failure : Except.error fault = ended at stopped
  induction stopped with
  | nothing => cases failure
  | done done _ induction => exact .done done (induction failure)
  | failed rest failed => exact .failed (rest ++ second) failed

/-! ## Every command does its errands -/

/-- The work of a controller is these errands, with the roster that it has meanwhile. -/
def Runs (errands : List Errand) (before : Controller) (trace : Trace)
    (result : Except Fault Unit) (after : Controller) : Prop :=
  Performed before.endpoint before.roster.devices errands before.link (calls trace) result after.link

section Runs

variable {before middle after : Controller}

theorem Runs.append (early : Runs first before trace (.ok ()) middle)
    (kept : Chronicle before [] trace middle) (late : Runs second middle others result after) :
    Runs (first ++ second) before (trace ++ others) result after := by
  have same : middle.roster = before.roster := kept.replayed
  unfold Runs at late ⊢
  rw [kept.settled, same] at late
  rw [Wire.calls_append]
  exact Performed.append early late

theorem Announcing.runs (announcing : Announcing before trace result after)
    (link : before.link = .disconnected) : Runs [.announce] before trace result after := by
  unfold Runs
  rw [link]
  cases announcing with
  | opened session => exact (Errand.Done.announced session).performed
  | failed fault =>
      rw [link]
      exact (Errand.Failed.refused fault).performed

theorem Reannouncing.runs (reannouncing : Reannouncing before trace result after) :
    Runs (parting before.link ++ [.announce]) before trace result after := by
  cases reannouncing with
  | disconnected link announcing =>
      rw [link]
      exact announcing.runs link
  | stuck session link fault =>
      unfold Runs
      rw [link]
      exact (Errand.Failed.kept session fault).performed.stop [.announce]
  | released session link announcing =>
      unfold Runs
      rw [link]
      have announced : Runs [.announce] before.closed.released _ result after := announcing.runs rfl
      exact (Errand.Done.left session).performed.append announced

theorem Beating.runs {session : Session} (beating : Beating before trace result after)
    (link : before.link = .connected session) : Runs [.beat] before trace result after := by
  unfold Runs
  cases beating with
  | idle closed => cases link.symm.trans closed
  | heard found same =>
      have kept : before.heard.link = .connected found := same
      rw [same, kept]
      exact (Errand.Done.heard found).performed
  | failed found same fault fatal =>
      rw [same]
      exact (Errand.Failed.broken found fault fatal).performed
  | lost found same what announcing =>
      rw [same]
      cases announcing with
      | opened anew => exact (Errand.Done.renewed found anew what).performed
      | failed fault => exact (Errand.Failed.lost found what fault).performed

theorem Idling.runs {tick remaining : Nat} (idling : Idling tick remaining before trace result after)
    (connected : before.Connected) :
    Runs (List.replicate remaining .beat) before trace result after := by
  induction idling with
  | done => exact .nothing _
  | disconnected tick remaining link =>
      obtain ⟨session, same⟩ := connected
      cases link.symm.trans same
  | failed tick remaining link beating =>
      have stopped := (beating.runs link).stop (List.replicate remaining .beat)
      exact stopped
  | ticked tick remaining link beating _ induction =>
      have rest := induction (beating.connected_iff.mpr connected)
      exact (beating.runs link).append beating.chronicle rest

theorem Idling.runs_nothing {tick remaining : Nat}
    (idling : Idling tick remaining before trace result after)
    (link : before.link = .disconnected) : Runs [] before trace result after := by
  cases idling with
  | done => exact .nothing _
  | disconnected => exact .nothing _
  | failed _ _ same => cases link.symm.trans same
  | ticked _ _ same => cases link.symm.trans same

theorem Obeying.runs {command : Command} (obeying : Obeying command before trace result after)
    (present : ∀ device, command = .disable device → device ∈ before.roster.devices) :
    Runs (tasks before.link command) (before.withRoster (command.applied before.roster)) trace result
      after := by
  cases obeying with
  | enable device reannouncing => exact reannouncing.runs
  | missing device fault missing =>
      obtain ⟨absent, _⟩ := Roster.disable_eq_error_iff.mp missing
      exact absurd (present device rfl) absent
  | disable device found roster removed reannouncing =>
      simp only [Command.applied, removed]
      exact reannouncing.runs
  | dieHorribly seconds announcing =>
      have announced := announcing.runs rfl
      exact (Errand.Done.paused seconds before.link).performed.append announced
  | sleep seconds idling =>
      cases link : before.link with
      | disconnected => exact idling.runs_nothing link
      | connected session => exact idling.runs ⟨session, link⟩

theorem Executing.runs {command : Command} (executing : Executing command before trace result after)
    (present : ∀ device, command = .disable device → device ∈ before.roster.devices) :
    Runs (errands before.link command) (before.withRoster (command.applied before.roster)) trace
      result after := by
  cases executing with
  | stopped obeying =>
      obtain ⟨rest, split⟩ := errands_begin_with_tasks before.link command
      rw [split]
      exact (obeying.runs present).stop rest
  | @obeyed _ _ _ middle _ obeying beating =>
      have done := obeying.runs present
      have beats : middle.Connected ↔ before.Connected ∨ command.announces = true :=
        obeying.connected_iff
      by_cases connected : middle.Connected
      · obtain ⟨session, link⟩ := connected
        rw [errands_eq_tasks (beats.mp ⟨session, link⟩)]
        exact done.append obeying.chronicle (beating.runs link)
      · rw [errands_eq_tasks_silent fun some => connected (beats.mpr some)]
        cases beating with
        | idle => rwa [List.append_nil]
        | heard session link => exact absurd ⟨session, link⟩ connected
        | failed session link => exact absurd ⟨session, link⟩ connected
        | lost session link => exact absurd ⟨session, link⟩ connected

end Runs

/-! ## How many calls there are -/

theorem Errand.Done.length_le {errand : Errand} (done : errand.Done endpoint devices link trace after) :
    trace.length ≤ 1 + [errand].count .beat := by
  cases done <;> simp

theorem Errand.Failed.length_le {errand : Errand}
    (failed : errand.Failed endpoint devices link trace fault after) :
    trace.length ≤ 1 + [errand].count .beat := by
  cases failed <;> simp

/-- An errand is one call, but for the second one that a heartbeat can make. -/
theorem Performed.length_le (performed : Performed endpoint devices first link trace result after) :
    trace.length ≤ first.length + first.count .beat := by
  induction performed with
  | nothing => exact Nat.zero_le _
  | @done errand rest _ _ _ _ _ _ done _ induction =>
      have here := done.length_le
      rw [← List.singleton_append, List.length_append, List.length_append, List.count_append,
        List.length_singleton]
      omega
  | @failed errand rest _ _ _ _ failed =>
      have here := failed.length_le
      rw [← List.singleton_append, List.length_append, List.count_append, List.length_singleton]
      omega

/-- The most calls that a command can make. -/
def mostCalls : Command → Nat
  | .sleep seconds => 2 * (seconds + 1)
  | _ => 4

theorem errands_most (link : Link) (command : Command) :
    (errands link command).length + (errands link command).count .beat ≤ mostCalls command := by
  cases link <;> cases command <;> simp [errands, parting, mostCalls]
  omega

theorem Errand.Done.unleft {errand : Errand} (done : errand.Done endpoint devices link trace after)
    (stays : errand ≠ .leave) : trace.countP isLeave = 0 := by
  cases done with
  | left => exact absurd rfl stays
  | _ => rfl

theorem Errand.Failed.unleft {errand : Errand}
    (failed : errand.Failed endpoint devices link trace fault after) (stays : errand ≠ .leave) :
    trace.countP isLeave = 0 := by
  cases failed with
  | kept => exact absurd rfl stays
  | _ => rfl

/-- Without the errand no session is left. -/
theorem Performed.unleft (performed : Performed endpoint devices first link trace result after)
    (stays : .leave ∉ first) : trace.countP isLeave = 0 := by
  induction performed with
  | nothing => rfl
  | done done _ induction =>
      have here := List.ne_of_not_mem_cons stays
      rw [List.countP_append, done.unleft here.symm,
        induction (List.not_mem_of_not_mem_cons stays)]
  | failed rest failed =>
      exact failed.unleft (List.ne_of_not_mem_cons stays).symm

/-- What errands leave behind that have all been done: each heartbeat is heard or lost, and each
that is lost is followed by a handshake. -/
structure Tallied (errands : List Errand) (trace : Trace) : Prop where
  beats : trace.countP isHeard + trace.countP isLoss = errands.count .beat
  openings : trace.countP isOpening = errands.count .announce + trace.countP isLoss

theorem Errand.Done.tallied {errand : Errand} (done : errand.Done endpoint devices link trace after) :
    Tallied [errand] trace := by
  cases done <;> exact ⟨rfl, rfl⟩

theorem Performed.tallied (performed : Performed endpoint devices first link trace (.ok ()) after) :
    Tallied first trace := by
  generalize success : Except.ok () = ended at performed
  induction performed with
  | nothing => exact ⟨rfl, rfl⟩
  | @done errand rest _ _ _ _ _ _ done _ induction =>
      have here := done.tallied
      have later := induction success
      have beats := here.beats
      have openings := here.openings
      have laterBeats := later.beats
      have laterOpenings := later.openings
      rw [← List.singleton_append]
      refine ⟨?_, ?_⟩
      · rw [List.countP_append, List.countP_append, List.count_append]
        omega
      · rw [List.countP_append, List.countP_append, List.count_append]
        omega
  | failed => cases success

/-- Sleeping in a session keeps one open, and the counters tell how it went. -/
theorem Executing.slept {seconds : Nat} {before after : Controller}
    (executing : Executing (.sleep seconds) before trace (.ok ()) after) (connected : before.Connected) :
    after.Connected ∧ ∃ losses,
      after.stats.heartbeats + losses = before.stats.heartbeats + (seconds + 1) ∧
        after.stats.recoveries = before.stats.recoveries + losses ∧
          after.stats.handshakes = before.stats.handshakes + losses := by
  have accounts := executing.accounts
  have heartbeats := accounts.heartbeats
  have handshakes := accounts.handshakes
  have runs := executing.runs fun device same => nomatch same
  refine ⟨executing.connected_iff.mpr (.inl connected), trace.countP isLoss, ?_⟩
  obtain ⟨session, link⟩ := connected
  rw [link] at runs
  have tallied : Tallied (List.replicate (seconds + 1) .beat) (calls trace) := Performed.tallied runs
  have beats := tallied.beats
  have openings := tallied.openings
  rw [Wire.count_calls isHeard fun _ => rfl, Wire.count_calls isLoss fun _ => rfl,
    List.count_replicate_self] at beats
  rw [Wire.count_calls isOpening fun _ => rfl, Wire.count_calls isLoss fun _ => rfl,
    List.count_eq_zero_of_not_mem (by simp)] at openings
  refine ⟨by omega, accounts.recoveries, by omega⟩

/-! ## Commands on the wire -/

variable {State : Type}

/-- A command runs its errands up to the first that fails, whatever the peer answers, so there is a
bound on its calls. Sleeping in a session is all heartbeats, and sleeping twice is sleeping once for
as many heartbeats. -/
theorem commands_on_wire (behaviour : Behaviour Wire.Answer State) (start : State)
    (controller : Controller) :
    (∀ command, (∀ device, command = .disable device → device ∈ controller.roster.devices) →
      let ended := enact behaviour (execute command) controller start
      Performed controller.endpoint (command.applied controller.roster).devices
        (errands controller.link command) controller.link (calls ended.trace) ended.value.1
        ended.value.2.link) ∧
    (∀ device, device ∉ controller.roster.devices →
      let ended := enact behaviour (execute (.disable device)) controller start
      calls ended.trace = [] ∧ ended.value.1 = .error (.notEnabled device)) ∧
    (∀ command, (calls (enact behaviour (execute command) controller start).trace).length ≤
      mostCalls command) ∧
    (∀ seconds, (enact behaviour (execute (.dieHorribly seconds)) controller
      start).trace.countP isLeave = 0) ∧
    (∀ seconds, controller.Connected →
      let ended := enact behaviour (execute (.sleep seconds)) controller start
      ended.value.1 = .ok () → ended.value.2.Connected ∧ ∃ losses,
        ended.value.2.stats.heartbeats + losses = controller.stats.heartbeats + (seconds + 1) ∧
          ended.value.2.stats.recoveries = controller.stats.recoveries + losses ∧
            ended.value.2.stats.handshakes = controller.stats.handshakes + losses) ∧
    (Unheard behaviour → ∀ first second,
      let early := enact behaviour (execute (.sleep first)) controller start
      let twice := enact behaviour (do execute (.sleep first); execute (.sleep second)) controller
        start
      let once := enact behaviour (execute (.sleep (first + second + 1))) controller start
      calls twice.trace = calls once.trace ∧ hushed twice.trace = hushed once.trace ∧
        twice.value.1 = once.value.1 ∧ twice.state = once.state ∧
        twice.value.2 = match early.value.1 with
          | .ok () => once.value.2.commanded
          | .error _ => once.value.2) := by
  have every : ∀ command, Executing command controller
      (enact behaviour (execute command) controller start).trace
      (enact behaviour (execute command) controller start).value.1
      (enact behaviour (execute command) controller start).value.2 :=
    fun command => executing (enact_outcome behaviour (execute command) controller start)
  refine ⟨?_, ?_, ?_, ?_, ?_, ?_⟩
  · intro command present
    exact (every command).runs present
  · intro device absent
    obtain ⟨told, failed⟩ := (every (.disable device)).missed absent
    refine ⟨?_, failed⟩
    rw [told]
    rfl
  · intro command
    by_cases present : ∀ device, command = .disable device → device ∈ controller.roster.devices
    · have runs := (every command).runs present
      exact Nat.le_trans (Performed.length_le runs) (errands_most controller.link command)
    · simp only [not_forall] at present
      obtain ⟨device, rfl, absent⟩ := present
      rw [((every (.disable device)).missed absent).1]
      exact Nat.zero_le _
  · intro seconds
    have runs := (every (.dieHorribly seconds)).runs fun device same => nomatch same
    rw [← Wire.count_calls isLeave fun _ => rfl]
    exact Performed.unleft runs (by simp [errands])
  · intro seconds connected ended success
    have slept := every (.sleep seconds)
    rw [success] at slept
    exact slept.slept connected
  · intro unheard first second early twice once
    obtain ⟨told, result, state, after⟩ := sleep_sleep unheard controller start first second
    refine ⟨?_, told, result, state, after⟩
    rw [← calls_hushed, ← calls_hushed once.trace]
    exact congrArg calls told

/-- A peer that lets every other heartbeat run out of time. -/
theorem commands_on_wire_renewed :
    let forgetful : Behaviour Wire.Answer Nat := fun
      | .narrate _, asked => ((), asked)
      | .handshake endpoint _, asked => (.ok ⟨endpoint, 4002, 4003⟩, asked)
      | .heartbeat _, asked =>
        (if asked % 2 = 0 then .ok () else .error (.timeout "no reply"), asked + 1)
      | .disconnect _, asked => (.ok (), asked)
      | .pause _, asked => ((), asked)
    let endpoint : Endpoint := ⟨"localhost", 1870, 5001⟩
    let controller : Controller :=
      { endpoint := endpoint, link := .connected ⟨endpoint, 4000, 4001⟩ }
    let twice := enact forgetful (do execute (.sleep 1); execute (.sleep 0)) controller 0
    let once := enact forgetful (execute (.sleep 2)) controller 0
    controller.Connected ∧ once.value.1 = .ok () ∧ Unheard forgetful ∧
      (once.value.2.Connected ∧ ∃ losses, once.value.2.stats.heartbeats + losses = 3 ∧
        once.value.2.stats.recoveries = losses ∧ once.value.2.stats.handshakes = losses) ∧
      calls twice.trace = calls once.trace ∧ twice.value.2 = once.value.2.commanded := by
  intro forgetful endpoint controller twice once
  have connected : controller.Connected := ⟨_, rfl⟩
  have success : once.value.1 = .ok () := rfl
  have unheard : Unheard forgetful := fun _ _ => rfl
  have told := commands_on_wire forgetful 0 controller
  obtain ⟨still, losses, heartbeats, recoveries, handshakes⟩ :=
    told.2.2.2.2.1 2 connected success
  obtain ⟨sameCalls, _, _, _, after⟩ := told.2.2.2.2.2 unheard 1 0
  refine ⟨connected, success, unheard, ⟨still, losses, ?_, ?_, ?_⟩, sameCalls, after⟩
  · simpa [controller] using heartbeats
  · simpa [controller] using recoveries
  · simpa [controller] using handshakes

end StandIn.Controller
