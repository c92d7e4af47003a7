import StandIn.Proofs.Controller.Chronicle
import StandIn.Proofs.Controller.Timeouts
import StandIn.Proofs.Program.Levels
import StandIn.Proofs.Tcp.Outcome

/-!
What becomes of a connection that runs out of time. Below a handshake or a disconnect it is a fault
of input and output like any other; below a heartbeat, and only there, it is a timeout.
-/

set_option autoImplicit false

namespace StandIn.Tcp

open Socket (Trace)

variable {Value Result : Type}

/-! ## The last connection -/

def connection? : Exchange Socket.Answer → Option (Except IoFault Unit)
  | ⟨.connect _ _ _, outcome⟩ => some outcome
  | _ => none

def lastConnection (trace : Trace) : Option (Except IoFault Unit) :=
  (trace.filterMap connection?).getLast?

@[simp]
theorem last_connection_nil : lastConnection [] = none := rfl

@[simp]
theorem last_connection_append (first second : Trace) :
    lastConnection (first ++ second) = (lastConnection second).or (lastConnection first) := by
  rw [lastConnection, List.filterMap_append, List.getLast?_append]
  rfl

@[simp]
theorem last_connection_cons (exchange : Exchange Socket.Answer) (rest : Trace) :
    lastConnection (exchange :: rest) = (lastConnection rest).or (connection? exchange) := by
  have single : lastConnection [exchange] = connection? exchange := by
    unfold lastConnection
    cases found : connection? exchange <;> simp [found]
  rw [← single, ← last_connection_append, List.singleton_append]

@[simp]
theorem last_connection_told (lines : List Narration) : lastConnection (told lines) = none := by
  induction lines with
  | nil => rfl
  | cons line rest induction =>
      rw [told, List.map_cons, last_connection_cons]
      exact (Option.or_none).trans induction

theorem Connecting.last {port : Port} {limit : Option Nat} {fault : IoFault}
    {addresses : List Address} {trace : Trace} {result : Except IoFault Unit}
    (connecting : Connecting port limit fault addresses trace result) :
    (lastConnection trace).getD (.error fault) = result := by
  induction connecting with
  | exhausted => rfl
  | connected => rfl
  | failed fault address next _ induction =>
      -- The fault of this attempt counts only if no other attempt comes after it.
      rw [last_connection_cons, ← induction]
      cases lastConnection _ <;> rfl

theorem Connecting.last_ok {port : Port} {limit : Option Nat} {fault : IoFault}
    {addresses : List Address} {trace : Trace}
    (connecting : Connecting port limit fault addresses trace (.ok ())) :
    lastConnection trace = some (.ok ()) := by
  have last := connecting.last
  cases found : lastConnection trace with
  | none =>
      rw [found] at last
      cases last
  | some outcome =>
      rw [found] at last
      exact congrArg some last

theorem Connecting.last_error {port : Port} {limit : Option Nat} {first fault other : IoFault}
    {addresses : List Address} {trace : Trace}
    (connecting : Connecting port limit first addresses trace (.error fault))
    (failed : lastConnection trace = some (.error other)) : other = fault := by
  have last := connecting.last
  rw [failed] at last
  cases last
  rfl

/-- An attempt that fails has tried every address in vain, and has the fault of the last of them. -/
theorem Connecting.in_vain {port : Port} {limit : Option Nat} {first fault : IoFault}
    {addresses : List Address} {trace : Trace}
    (connecting : Connecting port limit first addresses trace (.error fault)) :
    ∃ tries : List (Address × IoFault), tries.map Prod.fst = addresses ∧
      trace = tries.map (fun tried => ⟨.connect tried.1 port limit, .error tried.2⟩) ∧
        (tries.map Prod.snd).getLast?.getD first = fault := by
  generalize result : (Except.error fault : Except IoFault Unit) = ended at connecting
  induction connecting with
  | exhausted first =>
      cases result
      exact ⟨[], rfl, rfl, rfl⟩
  | connected => cases result
  | failed first address next _ induction =>
      obtain ⟨tries, rfl, rfl, last⟩ := induction result
      refine ⟨(address, next) :: tries, rfl, rfl, ?_⟩
      rw [List.map_cons, List.getLast?_cons]
      exact last

/-! ## Messages and their answers -/

/-- The fault of a failed connection is passed on as it is, and no fault is a timeout. -/
structure Relayed (trace : Trace) (result : Except Fault Value) : Prop where
  untimed : Untimed result
  passedOn : ∀ fault, lastConnection trace = some (.error fault) → result = .error (.io fault)
  connected : result.isOk = true → lastConnection trace = some (.ok ())

theorem Relayed.last {trace : Trace} {value : Value} (relayed : Relayed trace (.ok value)) :
    lastConnection trace = some (.ok ()) :=
  relayed.connected rfl

/-- Once a connection was opened, any result without a timeout will do. -/
theorem relayed_connected {trace : Trace} {result : Except Fault Value}
    (last : lastConnection trace = some (.ok ())) (untimed : Untimed result) :
    Relayed trace result where
  untimed := untimed
  passedOn fault failed := by
    rw [last] at failed
    cases failed
  connected _ := last

theorem relayed_failed {trace : Trace} {fault : IoFault}
    (same : ∀ other, lastConnection trace = some (.error other) → other = fault) :
    Relayed trace (.error (.io fault) : Except Fault Value) where
  untimed := untimed_error rfl
  passedOn other failed := by rw [same other failed]
  connected opened := by cases opened

/-- Steps around it that open no connection change nothing. -/
theorem Relayed.around {trace around : Trace} {fault : Fault}
    (relayed : Relayed trace (.error fault : Except Fault Value))
    (same : lastConnection around = lastConnection trace) :
    Relayed around (.error fault : Except Fault Result) where
  untimed := untimed_error relayed.untimed.fatal
  passedOn reason failed := by
    rw [same] at failed
    cases relayed.passedOn reason failed
    rfl
  connected opened := by cases opened

variable {host what : String} {port listenPort : Port} {message : String}
  {before after : List Narration} {capacity : Nat}

theorem Delivering.relayed {trace : Trace} {result : Except Fault Unit}
    (delivering : Delivering host port message trace result) : Relayed trace result := by
  cases delivering with
  | unresolved fault =>
      apply relayed_failed
      intro other failed
      cases failed
  | unconnected addresses fault connecting =>
      apply relayed_failed
      intro other failed
      rw [last_connection_cons] at failed
      exact connecting.last_error (Option.or_none.symm.trans failed)
  | unsent addresses fault connecting =>
      refine relayed_connected ?_ (untimed_error rfl)
      simp [connection?, connecting.last_ok]
  | delivered addresses connecting =>
      refine relayed_connected ?_ (untimed_ok ())
      simp [connection?, connecting.last_ok]

theorem Contacting.relayed {trace : Trace} {result : Except Fault Unit}
    (contacting : Contacting host port message before after trace result) : Relayed trace result := by
  cases contacting with
  | undelivered delivering =>
      apply delivering.relayed.around
      simp
  | unaccepted delivering fault =>
      refine relayed_connected ?_ (untimed_error rfl)
      simp [connection?, delivering.relayed.last]
  | accepted delivering =>
      refine relayed_connected ?_ (untimed_ok ())
      simp [connection?, delivering.relayed.last]

theorem Exchanging.relayed {trace : Trace} {result : Except Fault String}
    (exchanging : Exchanging listenPort host port message before after capacity what trace result) :
    Relayed trace result := by
  cases exchanging with
  | busy fault =>
      apply relayed_failed
      intro other failed
      cases failed
  | missed contacting =>
      apply contacting.relayed.around
      simp [connection?]
  | unread contacting fault =>
      refine relayed_connected ?_ (untimed_error rfl)
      simp [connection?, contacting.relayed.last]
  | read contacting bytes =>
      refine relayed_connected ?_ (untimed_ok _)
      simp [connection?, contacting.relayed.last]

theorem open_session_untimed (endpoint : Endpoint) (reply : Reply) :
    Untimed (openSession endpoint reply) := by
  rcases open_session_cases endpoint reply with ⟨session, same, _⟩ | ⟨reason, same⟩ | ⟨reason, same⟩
  · rw [same]
    exact untimed_ok session
  · rw [same]
    exact untimed_error rfl
  · rw [same]
    exact untimed_error rfl

theorem Handshaking.relayed {endpoint : Endpoint} {devices : List Device} {trace : Trace}
    {result : Except Fault Session} (handshaking : Handshaking endpoint devices trace result) :
    Relayed trace result := by
  cases handshaking with
  | failed greeting => exact Exchanging.relayed greeting |>.around rfl
  | @answered trace text greeting =>
      refine relayed_connected ?_ (open_session_untimed endpoint (Reply.ofText text))
      rw [last_connection_append, last_connection_told, Option.none_or]
      exact (Exchanging.relayed greeting).last

theorem Asking.relayed {session : Session} {number : UInt32} {trace : Trace}
    {result : Except Fault Reply} (asking : Asking session number trace result) :
    Relayed trace result := by
  cases asking with
  | failed requesting => exact Exchanging.relayed requesting |>.around rfl
  | answered requesting =>
      exact relayed_connected (Exchanging.relayed requesting).last (untimed_ok _)

@[simp]
theorem last_connection_pausing (policy : RetryPolicy) :
    lastConnection (pausing policy) = none := by
  unfold pausing
  split <;> rfl

/-- After a rejection only the attempts that follow it count. -/
theorem Relayed.behind {earlier trace : Trace} {result : Except Fault Value}
    (relayed : Relayed trace result) (last : lastConnection earlier = some (.ok ())) :
    Relayed (earlier ++ trace) result where
  untimed := relayed.untimed
  passedOn fault failed := by
    rw [last_connection_append, last] at failed
    cases later : lastConnection trace with
    | none =>
        rw [later] at failed
        cases failed
    | some outcome =>
        rw [later] at failed
        exact relayed.passedOn fault (later.trans failed)
  connected succeeded := by
    rw [last_connection_append, relayed.connected succeeded, Option.some_or]

theorem Negotiating.relayed {policy : RetryPolicy} {session : Session} {left : Nat} {number : UInt32}
    {trace : Trace} {result : Except Fault UInt32}
    (negotiating : Negotiating policy session left number trace result) : Relayed trace result := by
  induction negotiating with
  | failed left asking => exact asking.relayed.around rfl
  | accepted left asking =>
      refine relayed_connected ?_ (untimed_ok _)
      simp [asking.relayed.last]
  | senseless left reason asking => exact relayed_connected asking.relayed.last (untimed_error rfl)
  | refused left asking =>
      refine relayed_connected ?_ (untimed_error rfl)
      simp [asking.relayed.last]
  | overflowed asking =>
      refine relayed_connected ?_ (untimed_error rfl)
      simp [asking.relayed.last]
  | @again left number trace others result asking allowed _ induction =>
      have told : lastConnection (trace ++ (told [.rejected number] ++ pausing policy)) =
          some (.ok ()) := by
        simp [asking.relayed.last]
      have whole := induction.behind told
      simpa only [List.append_assoc] using whole

/-! ## Heartbeats -/

/-- Every address of the peer was tried in vain, and the last fault, which is the one reported, is
one of having run out of time. -/
structure Unanswered (timing : HeartbeatTiming) (session : Session) (trace : Trace)
    (tries : List (Address × IoFault)) : Prop where
  steps : trace = ⟨.narrate (.heartbeat session.endpoint.peerHost session.heartbeatPort), ()⟩ ::
    ⟨.resolve session.endpoint.peerHost, .ok (tries.map Prod.fst)⟩ ::
      tries.map fun tried =>
        ⟨.connect tried.1 session.heartbeatPort (some timing.connectTimeout), .error tried.2⟩
  reported : ∃ fault, (tries.map Prod.snd).getLast? = some fault ∧
    (fault.kind = .timedOut ∨ fault.kind = .wouldBlock)

theorem Pulsing.unanswered {timing : HeartbeatTiming} {session : Session} {trace : Trace}
    {what : String} (pulsing : Pulsing timing session trace (.error (.timeout what))) :
    ∃ tries, Unanswered timing session trace tries := by
  generalize result : (Except.error (.timeout what) : Except Fault Unit) = ended at pulsing
  cases pulsing with
  | unresolved fault => cases result
  | nowhere => cases result
  | felt => cases result
  | @missed addresses trace fault known connecting =>
      obtain ⟨tries, rfl, rfl, last⟩ := connecting.in_vain
      refine ⟨tries, rfl, fault, ?_, ?_⟩
      -- There was an address to try, so the fault is not the one that stands for none.
      · cases found : (tries.map Prod.snd).getLast? with
        | none =>
            rw [List.getLast?_eq_none_iff, List.map_eq_nil_iff] at found
            rw [found] at known
            exact absurd rfl known
        | some reported =>
            rw [found] at last
            exact congrArg some last
      · unfold heartbeatFault at result
        split at result
        · next timedOut => simpa [IoFault.isTimeout] using timedOut
        · cases result

/-! ## Runs -/

variable {State : Type} (network : Behaviour Socket.Answer State) (timing : HeartbeatTiming)
  (policy : RetryPolicy)

theorem handshake_relayed (endpoint : Endpoint) (devices : List Device) (start : State) :
    let ended := (handshake endpoint devices).run.run network start
    Relayed ended.trace ended.value :=
  (handshaking (Program.run_yields network (handshake endpoint devices).run start)).relayed

theorem disconnect_relayed (session : Session) (start : State) :
    let ended := (disconnect policy session).run network start
    Relayed ended.trace ended.value := by
  intro ended
  obtain ⟨outcome, negotiating, result⟩ :=
    disconnecting (Program.run_yields network (disconnect policy session) start)
  have relayed := negotiating.relayed
  rw [result]
  cases outcome with
  | error fault => exact relayed.around rfl
  | ok number => exact relayed_connected relayed.last (untimed_ok ())

/-- Over sockets nothing but a heartbeat runs out of time. -/
theorem carried_punctual {trace : Wire.Trace} {start after : State}
    (answered : Program.Answered (Program.through (carry timing policy) network) start trace after) :
    Wire.Punctual trace := by
  intro call member timedOut
  obtain ⟨there, carried⟩ := Program.answered_member answered member
  obtain ⟨what, ⟨endpoint, devices, rfl⟩ | ⟨session, rfl⟩ | lost⟩ := Wire.timed_out_cases timedOut
  · exact absurd carried.symm ((handshake_relayed network endpoint devices there).untimed what)
  · exact absurd carried.symm ((disconnect_relayed network policy session there).untimed what)
  · exact lost

/-- For every network, timing and retry policy. A handshake or a disconnect never ends with a timeout:
if its last connection has failed, it ends with that fault as one of input and output. A heartbeat
does so only if every address was tried in vain and the fault of the last one is one of having run
out of time. So no step of a controller ever ends with a timeout, whatever was asked of it before:
of the calls that it has made, all that ran out of time are heartbeats, each was followed by a
handshake as the next call, and the recoveries are as many. -/
theorem timeouts_never_escape :
    (∀ endpoint devices start,
      let ended := (handshake endpoint devices).run.run network start
      (∀ what, ended.value ≠ .error (.timeout what)) ∧
        ∀ fault, lastConnection ended.trace = some (.error fault) →
          ended.value = .error (.io fault)) ∧
    (∀ session start,
      let ended := (disconnect policy session).run network start
      (∀ what, ended.value ≠ .error (.timeout what)) ∧
        ∀ fault, lastConnection ended.trace = some (.error fault) →
          ended.value = .error (.io fault)) ∧
    (∀ session start what,
      let ended := (heartbeat timing session).run.run network start
      ended.value = .error (.timeout what) → ∃ tries, Unanswered timing session ended.trace tries) ∧
    ∀ endpoint options steps start,
      let history := (Controller.fresh endpoint options).converseAll steps
      let finished := (history.perform (carry timing policy)).run network start
      let wire := history.run (Program.through (carry timing policy) network) start
      finished.value = wire.value ∧
        (∀ result ∈ finished.value.1, ∀ what, result ≠ .error (.timeout what)) ∧
        (∀ call ∈ wire.trace, Wire.isTimedOut call = true → Wire.Lost call) ∧
        Wire.Renewed (Wire.calls wire.trace) ∧
        finished.value.2.stats.recoveries = wire.trace.countP Wire.isTimedOut := by
  refine ⟨?_, ?_, ?_, ?_⟩
  · intro endpoint devices start ended
    have relayed := handshake_relayed network endpoint devices start
    exact ⟨relayed.untimed, relayed.passedOn⟩
  · intro session start ended
    have relayed := disconnect_relayed network policy session start
    exact ⟨relayed.untimed, relayed.passedOn⟩
  · intro session start what ended failed
    have went := pulsing (Program.run_yields network (heartbeat timing session).run start)
    have failing : Pulsing timing session ended.trace (.error (.timeout what)) := failed ▸ went
    exact failing.unanswered
  · intro endpoint options steps start history finished wire
    have same : finished.value = wire.value :=
      (Program.run_perform (carry timing policy) network history start).1
    have punctual : Wire.Punctual wire.trace :=
      carried_punctual network timing policy (Program.run_answered _ history start)
    have lived : Controller.Past steps (Controller.fresh endpoint options) wire.trace wire.value.1
        wire.value.2 := Controller.past (Program.run_yields _ history start)
    obtain ⟨commands, chronicle, _⟩ := lived.chronicle
    have books := Controller.history_accounts (Program.through (carry timing policy) network) start
      (Controller.fresh endpoint options) steps
    have recoveries : wire.value.2.stats.recoveries = wire.trace.countP Wire.isLoss :=
      books.recoveries.trans (Nat.zero_add _)
    rw [same]
    refine ⟨rfl, ?_, punctual, chronicle.renewed, ?_⟩
    · exact lived.untimed punctual
    · exact recoveries.trans punctual.losses.symm

end StandIn.Tcp
