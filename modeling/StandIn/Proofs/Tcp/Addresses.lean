import StandIn.Proofs.Controller.Outcome
import StandIn.Proofs.Program.Levels
import StandIn.Proofs.Tcp.Outcome

/-!
Which addresses of the peer a heartbeat tries, and what their outcomes decide. The addresses are
tried in order up to the first that connects. If none does, the fault of the last one alone decides
whether the heartbeat has run out of time, and so whether the controller announces itself anew.
-/

set_option autoImplicit false

namespace StandIn.Tcp

open Socket (Trace)

variable {State : Type} (network : Behaviour Socket.Answer State)

/-! ## Addresses in order -/

/-- An address with what comes of connecting to it. -/
abbrev Prospect := Address × Except IoFault Unit

/-- What comes of connecting to each address in turn, however many of them connect. -/
def prospects (port : Port) (limit : Option Nat) : List Address → State → List Prospect
  | [], _ => []
  | address :: others, state =>
    let (outcome, after) := network (.connect address port limit) state
    (address, outcome) :: prospects port limit others after

/-- The steps that try just these addresses. -/
def attempts (port : Port) (limit : Option Nat) (tried : List Prospect) : Trace :=
  tried.map fun attempt => ⟨.connect attempt.1 port limit, attempt.2⟩

/-- None of the addresses connects. -/
def InVain (tried : List Prospect) : Prop :=
  ∀ attempt ∈ tried, attempt.2 ≠ .ok ()

def isAttempt : Exchange Socket.Answer → Bool
  | ⟨.connect _ _ _, _⟩ => true
  | _ => false

def isConnection : Exchange Socket.Answer → Bool
  | ⟨.connect _ _ _, .ok ()⟩ => true
  | _ => false

theorem prospects_addresses (port : Port) (limit : Option Nat) (addresses : List Address)
    (state : State) : (prospects network port limit addresses state).map Prod.fst = addresses := by
  induction addresses generalizing state with
  | nil => rfl
  | cons address others induction =>
      rw [prospects, List.map_cons, induction]

theorem in_vain_or_connects (found : List Prospect) :
    InVain found ∨ ∃ failed address later,
      found = failed ++ (address, .ok ()) :: later ∧ InVain failed := by
  induction found with
  | nil =>
      left
      simp [InVain]
  | cons attempt others induction =>
      obtain ⟨address, outcome⟩ := attempt
      cases outcome with
      | ok =>
          right
          exact ⟨[], address, others, rfl, by simp [InVain]⟩
      | error fault =>
          have failed : ∀ tried, InVain tried → InVain ((address, .error fault) :: tried) := by
            intro tried vain
            simpa [InVain] using vain
          rcases induction with vain | ⟨first, next, later, split, vain⟩
          · left
            exact failed others vain
          · right
            refine ⟨(address, .error fault) :: first, next, later, ?_, failed first vain⟩
            rw [split, List.cons_append]

theorem in_vain_iff (found : List Prospect) :
    InVain found ↔ ¬ ∃ address, (address, .ok ()) ∈ found := by
  constructor
  · rintro vain ⟨address, member⟩
    exact vain _ member rfl
  · intro none attempt member connects
    apply none
    refine ⟨attempt.1, ?_⟩
    rw [← connects]
    exact member

theorem connections_in_vain {port : Port} {limit : Option Nat} {tried : List Prospect}
    (vain : InVain tried) : (attempts port limit tried).countP isConnection = 0 := by
  rw [List.countP_eq_zero]
  intro step member
  obtain ⟨attempt, among, rfl⟩ := List.mem_map.mp member
  have failed := vain attempt among
  obtain ⟨address, outcome⟩ := attempt
  cases outcome with
  | ok => exact absurd rfl failed
  | error fault => simp [isConnection]

@[simp]
theorem filter_attempts (port : Port) (limit : Option Nat) (tried : List Prospect) :
    (attempts port limit tried).filter isAttempt = attempts port limit tried := by
  rw [List.filter_eq_self]
  intro step member
  obtain ⟨attempt, _, rfl⟩ := List.mem_map.mp member
  simp [isAttempt]

variable {network} {port : Port} {limit : Option Nat} {address : Address} {others : List Address}
  {addresses : List Address} {state after : State}

theorem prospects_cons {outcome : Except IoFault Unit}
    (met : network (.connect address port limit) state = (outcome, after)) :
    prospects network port limit (address :: others) state =
      (address, outcome) :: prospects network port limit others after := by
  rw [prospects, met]

theorem connect_first_connected (fault : IoFault)
    (met : network (.connect address port limit) state = (.ok (), after)) :
    (connectFirst port limit fault (address :: others)).run network state =
      ⟨[⟨.connect address port limit, .ok ()⟩], .ok (), after⟩ := by
  simp [connectFirst, Socket.once, Program.request, Bind.bind, Program.run, met, pure]

theorem connect_first_failed (fault next : IoFault)
    (met : network (.connect address port limit) state = (.error next, after)) :
    (connectFirst port limit fault (address :: others)).run network state =
      let rest := (connectFirst port limit next others).run network after
      { rest with trace := ⟨.connect address port limit, .error next⟩ :: rest.trace } := by
  simp [connectFirst, Socket.once, Program.request, Bind.bind, Program.run, met]

/-- If none of the addresses connects, all of them are tried, and the outcome is that of the last. -/
theorem connect_first_in_vain (fault : IoFault)
    (vain : InVain (prospects network port limit addresses state)) :
    let tried := (connectFirst port limit fault addresses).run network state
    let found := prospects network port limit addresses state
    tried.trace = attempts port limit found ∧
      tried.value = (found.getLast?.map Prod.snd).getD (.error fault) := by
  induction addresses generalizing state fault with
  | nil => exact ⟨rfl, rfl⟩
  | cons address others induction =>
      cases met : network (.connect address port limit) state with
      | mk outcome after =>
          rw [prospects_cons met] at vain ⊢
          cases outcome with
          | ok => exact absurd rfl (vain _ List.mem_cons_self)
          | error next =>
              have later : InVain (prospects network port limit others after) :=
                fun attempt member => vain attempt (List.mem_cons_of_mem _ member)
              have rest := induction next later
              rw [connect_first_failed fault next met]
              constructor
              · simp only [rest.1, attempts, List.map_cons]
              · simp only [rest.2, List.getLast?_cons]
                cases (prospects network port limit others after).getLast? <;> rfl

/-- The first address that connects is the last one tried. -/
theorem connect_first_connects (fault : IoFault) {failed later : List Prospect} {address : Address}
    (split : prospects network port limit addresses state = failed ++ (address, .ok ()) :: later)
    (vain : InVain failed) :
    let tried := (connectFirst port limit fault addresses).run network state
    tried.trace = attempts port limit (failed ++ [(address, .ok ())]) ∧ tried.value = .ok () := by
  induction addresses generalizing state fault failed with
  | nil => simp [prospects] at split
  | cons first others induction =>
      cases met : network (.connect first port limit) state with
      | mk outcome after =>
          rw [prospects_cons met] at split
          cases failed with
          | nil =>
              simp only [List.nil_append, List.cons.injEq, Prod.mk.injEq] at split
              obtain ⟨⟨rfl, rfl⟩, _⟩ := split
              rw [connect_first_connected fault met]
              exact ⟨rfl, rfl⟩
          | cons attempt failed =>
              simp only [List.cons_append, List.cons.injEq] at split
              obtain ⟨rfl, split⟩ := split
              cases outcome with
              | ok => exact absurd rfl (vain _ List.mem_cons_self)
              | error next =>
                  have rest := induction next split
                    fun attempt member => vain attempt (List.mem_cons_of_mem _ member)
                  rw [connect_first_failed fault next met]
                  constructor
                  · simp only [rest.1, attempts, List.cons_append, List.map_cons]
                  · exact rest.2

/-! ## Heartbeats -/

variable (network) in
/-- What the host of the peer resolves to when a heartbeat begins. -/
def asked (session : Session) (start : State) : Except IoFault (List Address) × State :=
  let told := network (.narrate (.heartbeat session.endpoint.peerHost session.heartbeatPort)) start
  network (.resolve session.endpoint.peerHost) told.2

variable (network) in
/-- What comes of connecting to each address of the peer as a heartbeat does. -/
abbrev chances (timing : HeartbeatTiming) (session : Session) :
    List Address → State → List Prospect :=
  prospects network session.heartbeatPort (some timing.connectTimeout)

/-- The steps of a heartbeat that try just these addresses. -/
abbrev trials (timing : HeartbeatTiming) (session : Session) (tried : List Prospect) : Trace :=
  attempts session.heartbeatPort (some timing.connectTimeout) tried

theorem heartbeat_run (timing : HeartbeatTiming) (session : Session) :
    (heartbeat timing session).run =
      .ask (.narrate (.heartbeat session.endpoint.peerHost session.heartbeatPort)) fun _ =>
        .ask (.resolve session.endpoint.peerHost) fun
          | .error fault => .done (.error (.io fault))
          | .ok [] => .done (.error (.configuration
              ("could not resolve DGI host " ++ Text.quoted session.endpoint.peerHost)))
          | .ok (address :: others) =>
            (connectFirst session.heartbeatPort (some timing.connectTimeout) .noAddresses
              (address :: others)).bind fun
                | .error fault => .done (.error (heartbeatFault session fault))
                | .ok () => .ask (.wait timing.hold) fun _ => .ask .hangUp fun _ =>
                    .ask (.wait timing.rest) fun _ => .done (.ok ()) := by
  refine congrArg (Program.ask _) (funext fun _ => congrArg (Program.ask _) (funext fun answer => ?_))
  rcases answer with fault | addresses
  · rfl
  · cases addresses with
    | nil => rfl
    | cons address others =>
        refine (run_lift_bind _ _).trans (congrArg (Program.bind _) (funext fun outcome => ?_))
        cases outcome <;> rfl

variable {timing : HeartbeatTiming} {session : Session} {start : State}

variable (timing) in
theorem heartbeat_unresolved {fault : IoFault}
    (unknown : asked network session start = (.error fault, after)) :
    ((heartbeat timing session).run.run network start).value = .error (.io fault) := by
  unfold asked at unknown
  simp only [heartbeat_run, Program.run, unknown]

/-- The steps of a heartbeat before it tries an address. -/
def opening (session : Session) (addresses : List Address) : Trace :=
  [⟨.narrate (.heartbeat session.endpoint.peerHost session.heartbeatPort), ()⟩,
    ⟨.resolve session.endpoint.peerHost, .ok addresses⟩]

/-- The steps of a heartbeat that has connected. -/
def holding (timing : HeartbeatTiming) : Trace :=
  [⟨.wait timing.hold, ()⟩, ⟨.hangUp, ()⟩, ⟨.wait timing.rest, ()⟩]

variable (timing) in
theorem heartbeat_nowhere (known : asked network session start = (.ok [], after)) :
    let ended := (heartbeat timing session).run.run network start
    ended.trace = opening session [] ∧ ended.value = .error (.configuration
      ("could not resolve DGI host " ++ Text.quoted session.endpoint.peerHost)) := by
  unfold asked at known
  simp [heartbeat_run, Program.run, known, opening]

theorem heartbeat_connects (known : asked network session start = (.ok addresses, after))
    {failed later : List Prospect} (vain : InVain failed)
    (split : chances network timing session addresses after = failed ++ (address, .ok ()) :: later) :
    let ended := (heartbeat timing session).run.run network start
    ended.trace = opening session addresses ++
        (trials timing session (failed ++ [(address, .ok ())]) ++ holding timing) ∧
      ended.value = .ok () := by
  obtain ⟨steps, connected⟩ := connect_first_connects .noAddresses split vain
  unfold asked at known
  cases addresses with
  | nil => simp [chances, prospects] at split
  | cons first others =>
      simp [heartbeat_run, Program.run, Program.run_bind, known, connected, steps, opening, holding]

theorem heartbeat_in_vain (known : asked network session start = (.ok addresses, after))
    (vain : InVain (chances network timing session addresses after)) {fault : IoFault}
    (last : (chances network timing session addresses after).getLast? =
      some (address, .error fault)) :
    let ended := (heartbeat timing session).run.run network start
    ended.trace = opening session addresses ++
        trials timing session (chances network timing session addresses after) ∧
      ended.value = .error (heartbeatFault session fault) := by
  obtain ⟨steps, failed⟩ := connect_first_in_vain .noAddresses vain
  rw [last] at failed
  unfold asked at known
  cases addresses with
  | nil => simp [chances, prospects] at last
  | cons first others =>
      simp [heartbeat_run, Program.run, Program.run_bind, known, failed, steps, opening]

/-! ## What the addresses decide -/

/-- The fault of a heartbeat whose last address has failed so. -/
theorem heartbeat_fault_eq (session : Session) (fault : IoFault) :
    heartbeatFault session fault =
      if fault.kind = .timedOut ∨ fault.kind = .wouldBlock then
        .timeout ("heartbeat to " ++ session.endpoint.peerHost ++ ":" ++
          Narration.portText session.heartbeatPort)
      else .io fault := by
  unfold heartbeatFault IoFault.isTimeout
  simp

/-- No address connects, and the last one runs out of time. -/
def OutOfTime (found : List Prospect) : Prop :=
  InVain found ∧ ∃ address fault, found.getLast? = some (address, .error fault) ∧
    (fault.kind = .timedOut ∨ fault.kind = .wouldBlock)

/-- How a heartbeat goes when these are the addresses of the peer and what comes of each. -/
structure Decided (timing : HeartbeatTiming) (session : Session) (found : List Prospect)
    (trace : Trace) (result : Except Fault Unit) : Prop where
  succeeds : result = .ok () ↔ ∃ address, (address, .ok ()) ∈ found
  stops : ∀ failed address later, found = failed ++ (address, .ok ()) :: later → InVain failed →
    trace.countP isConnection = 1 ∧
      trace.filter isAttempt = trials timing session (failed ++ [(address, .ok ())])
  exhausts : InVain found →
    trace.countP isConnection = 0 ∧ trace.filter isAttempt = trials timing session found
  last : InVain found → found ≠ [] → ∃ address fault,
    found.getLast? = some (address, .error fault) ∧ result = .error
      (if fault.kind = .timedOut ∨ fault.kind = .wouldBlock then
        .timeout ("heartbeat to " ++ session.endpoint.peerHost ++ ":" ++
          Narration.portText session.heartbeatPort)
      else .io fault)
  nowhere : found = [] → result = .error (.configuration
    ("could not resolve DGI host " ++ Text.quoted session.endpoint.peerHost))

theorem in_vain_last {found : List Prospect} (vain : InVain found) (inhabited : found ≠ []) :
    ∃ address fault, found.getLast? = some (address, .error fault) := by
  have last := List.getLast?_eq_some_getLast inhabited
  have failed := vain _ (List.getLast_mem inhabited)
  generalize found.getLast inhabited = attempt at last failed
  obtain ⟨address, outcome⟩ := attempt
  cases outcome with
  | ok => exact absurd rfl failed
  | error fault => exact ⟨address, fault, last⟩

theorem connections_single {port : Port} {limit : Option Nat} {failed : List Prospect}
    {address : Address} (vain : InVain failed) :
    (attempts port limit (failed ++ [(address, .ok ())])).countP isConnection = 1 := by
  have none : (attempts port limit failed).countP isConnection = 0 := connections_in_vain vain
  unfold attempts at none ⊢
  simp [List.countP_append, none, isConnection]

section

variable (timing)

theorem decided_nowhere (known : asked network session start = (.ok [], after)) :
    let ended := (heartbeat timing session).run.run network start
    Decided timing session [] ended.trace ended.value := by
  obtain ⟨steps, result⟩ := heartbeat_nowhere timing known
  constructor
  · simp [result]
  · simp
  · simp [steps, opening, isAttempt, isConnection, attempts]
  · simp
  · exact fun _ => result

theorem decided_in_vain (known : asked network session start = (.ok addresses, after))
    (vain : InVain (chances network timing session addresses after))
    (inhabited : chances network timing session addresses after ≠ []) :
    let ended := (heartbeat timing session).run.run network start
    Decided timing session (chances network timing session addresses after) ended.trace
      ended.value := by
  obtain ⟨address, fault, last⟩ := in_vain_last vain inhabited
  obtain ⟨steps, result⟩ := heartbeat_in_vain known vain last
  have never := (in_vain_iff _).mp vain
  constructor
  · simp [result, never]
  · intro failed other later split _
    have connects : (other, .ok ()) ∈ chances network timing session addresses after := by
      simp [split]
    exact absurd ⟨other, connects⟩ never
  · simp [steps, opening, isAttempt, isConnection, connections_in_vain vain]
  · intro _ _
    refine ⟨address, fault, last, ?_⟩
    rw [← heartbeat_fault_eq]
    exact result
  · exact fun none => absurd none inhabited

theorem decided_connects (known : asked network session start = (.ok addresses, after))
    {failed later : List Prospect} (vain : InVain failed)
    (split : chances network timing session addresses after = failed ++ (address, .ok ()) :: later) :
    let ended := (heartbeat timing session).run.run network start
    Decided timing session (chances network timing session addresses after) ended.trace
      ended.value := by
  obtain ⟨_, result⟩ := heartbeat_connects known vain split
  have connects : (address, .ok ()) ∈ chances network timing session addresses after := by
    simp [split]
  constructor
  · simp only [result, true_iff]
    exact ⟨address, connects⟩
  · intro failed address later split vain
    obtain ⟨steps, _⟩ := heartbeat_connects known vain split
    simp [steps, opening, holding, isAttempt, isConnection, connections_single vain]
  · exact fun none => absurd rfl (none _ connects)
  · exact fun none => absurd rfl (none _ connects)
  · intro none
    simp [none] at connects

/-- There is no address, or each is tried in vain, or one is the first that connects. -/
theorem heartbeat_decided (known : asked network session start = (.ok addresses, after)) :
    let ended := (heartbeat timing session).run.run network start
    Decided timing session (chances network timing session addresses after) ended.trace
      ended.value := by
  rcases in_vain_or_connects (chances network timing session addresses after) with
    vain | ⟨failed, address, later, split, vain⟩
  · by_cases none : chances network timing session addresses after = []
    · have listed : (chances network timing session addresses after).map Prod.fst = addresses :=
        prospects_addresses network _ _ addresses after
      rw [none] at listed ⊢
      cases listed
      exact decided_nowhere timing known
    · exact decided_in_vain timing known vain none
  · exact decided_connects timing known vain split

end

/-- The host resolves, and then no address connects and the last one runs out of time. -/
def PeerLost (network : Behaviour Socket.Answer State) (timing : HeartbeatTiming)
    (session : Session) (start : State) : Prop :=
  ∃ addresses after, asked network session start = (.ok addresses, after) ∧
    OutOfTime (chances network timing session addresses after)

/-- A heartbeat ends with a timeout just when the peer is lost. -/
theorem heartbeat_timeout_iff :
    (∃ what, ((heartbeat timing session).run.run network start).value = .error (.timeout what)) ↔
      PeerLost network timing session start := by
  constructor
  · rintro ⟨what, timedOut⟩
    cases resolved : asked network session start with
    | mk outcome after =>
        cases outcome with
        | error fault =>
            rw [heartbeat_unresolved timing resolved] at timedOut
            cases timedOut
        | ok addresses =>
            have decided := heartbeat_decided timing resolved
            have vain : InVain (chances network timing session addresses after) := by
              rw [in_vain_iff, ← decided.succeeds, timedOut]
              simp
            have inhabited : chances network timing session addresses after ≠ [] := by
              intro none
              have nowhere := decided.nowhere none
              simp [timedOut] at nowhere
            obtain ⟨address, fault, last, result⟩ := decided.last vain inhabited
            refine ⟨addresses, after, resolved, vain, address, fault, last, ?_⟩
            apply Decidable.byContradiction
            intro other
            rw [if_neg other, timedOut] at result
            cases result
  · rintro ⟨addresses, after, resolved, vain, address, fault, last, kind⟩
    obtain ⟨_, result⟩ := heartbeat_in_vain resolved vain last
    rw [heartbeat_fault_eq, if_pos kind] at result
    exact ⟨_, result⟩

/-! ## What becomes of the controller -/

variable {controller : Controller}

variable (network timing start) in
/-- Three ways for a heartbeat of the controller, told apart by what the one of its session comes to. -/
theorem beat_cases (policy : RetryPolicy) (linked : controller.link = .connected session) :
    let ended := (heartbeat timing session).run.run network start
    let beaten := Controller.enact (Program.through (carry timing policy) network) Controller.beat
      controller start
    (ended.value = .ok () ∧ Wire.calls beaten.trace = [⟨.heartbeat session, .ok ()⟩]) ∨
      (∃ what offered, ended.value = .error (.timeout what) ∧ Wire.calls beaten.trace =
        [⟨.heartbeat session, .error (.timeout what)⟩,
          ⟨.handshake controller.endpoint controller.roster.devices, offered⟩]) ∨
      ∃ fault, fault.isTimeout = false ∧ ended.value = .error fault ∧
        beaten.value = (.error fault, controller) ∧
        Wire.calls beaten.trace = [⟨.heartbeat session, .error fault⟩] := by
  intro ended beaten
  have beating : Controller.Beating controller beaten.trace beaten.value.1 beaten.value.2 :=
    Controller.beating (Controller.enact_outcome _ Controller.beat controller start)
  have answered : Program.Answered _ start beaten.trace beaten.state :=
    Program.run_answered (Program.through (carry timing policy) network)
      (Controller.beat.run.run controller) start
  obtain ⟨trace, ⟨result, after⟩, state⟩ := beaten
  cases beating with
  | idle link => cases linked.symm.trans link
  | heard other link =>
      cases linked.symm.trans link
      obtain ⟨same, _⟩ := Program.answered_cons answered
      exact .inl ⟨same.symm, rfl⟩
  | failed other link fault fatal =>
      cases linked.symm.trans link
      obtain ⟨same, _⟩ := Program.answered_cons answered
      exact .inr (.inr ⟨fault, fatal, same.symm, rfl, rfl⟩)
  | lost other link what announcing =>
      cases linked.symm.trans link
      obtain ⟨same, _⟩ := Program.answered_cons answered
      cases announcing with
      | opened offered => exact .inr (.inl ⟨what, .ok offered, same.symm, rfl⟩)
      | failed fault => exact .inr (.inl ⟨what, .error fault, same.symm, rfl⟩)

/-- For every network, with whatever the host resolves to and whatever comes of connecting to each of
its addresses. A host that does not resolve ends the heartbeat with that fault. Otherwise the
addresses are tried in order up to the first that connects, which is the one connection opened; if
none does, every one was tried, and the last one's fault alone decides whether that is a timeout. The
controller announces itself anew just when no address connects and the last one runs out of time;
any other fault ends its heartbeat, leaves it as it is and is followed by no call. -/
theorem heartbeat_decided_by_addresses (network : Behaviour Socket.Answer State)
    (timing : HeartbeatTiming) (policy : RetryPolicy) (session : Session) (start : State) :
    let ended := (heartbeat timing session).run.run network start
    (∀ fault after, asked network session start = (.error fault, after) →
      ended.value = .error (.io fault)) ∧
    (∀ addresses after, asked network session start = (.ok addresses, after) →
      (chances network timing session addresses after).map Prod.fst = addresses ∧
        Decided timing session (chances network timing session addresses after) ended.trace
          ended.value) ∧
    ∀ controller : Controller, controller.link = .connected session →
      let beaten := Controller.enact (Program.through (carry timing policy) network) Controller.beat
        controller start
      ((∃ offered, Wire.calls beaten.trace = [⟨.heartbeat session, ended.value⟩,
          ⟨.handshake controller.endpoint controller.roster.devices, offered⟩]) ↔
        PeerLost network timing session start) ∧
      ∀ fault, ended.value = .error fault → ¬ PeerLost network timing session start →
        beaten.value = (.error fault, controller) ∧
          Wire.calls beaten.trace = [⟨.heartbeat session, .error fault⟩] := by
  intro ended
  refine ⟨?_, ?_, ?_⟩
  · intro fault after unknown
    exact heartbeat_unresolved timing unknown
  · intro addresses after known
    exact ⟨prospects_addresses network _ _ addresses after, heartbeat_decided timing known⟩
  · intro controller linked beaten
    have timeouts : (∃ what, ended.value = .error (.timeout what)) ↔
        PeerLost network timing session start := heartbeat_timeout_iff
    rw [← timeouts]
    rcases beat_cases network timing start policy linked with
      ⟨heard, calls⟩ | ⟨what, offered, lost, calls⟩ | ⟨fault, fatal, failed, result, calls⟩
    · have same : ended.value = .ok () := heard
      rw [same]
      simp [beaten, calls]
    · have same : ended.value = .error (.timeout what) := lost
      rw [same]
      simp [beaten, calls]
    · have same : ended.value = .error fault := failed
      rw [same]
      have untimed : ∀ what, fault ≠ .timeout what := by
        rintro what rfl
        cases fatal
      simp [beaten, calls, result, untimed]

/-! ## Any outcomes in any order -/

/-- A network that knows every host by these addresses and has outcomes in store for connecting. -/
def storing (known : List Address) : Behaviour Socket.Answer (List (Except IoFault Unit))
  | .resolve _, store => (.ok known, store)
  | .connect _ _ _, [] => (.error (.system .connectionRefused), [])
  | .connect _ _ _, outcome :: store => (outcome, store)
  | .listen _, store => (.error (.system .addrInUse), store)
  | .send _, store => (.error (.system .brokenPipe), store)
  | .accept, store => (.error (.system .connectionReset), store)
  | .receive _, store => (.error (.system .connectionReset), store)
  | .narrate _, store => ((), store)
  | .release, store => ((), store)
  | .hangUp, store => ((), store)
  | .wait _, store => ((), store)

/-- There is no list of addresses and outcomes that a heartbeat could not meet. -/
theorem chances_storing (timing : HeartbeatTiming) (session : Session) (found : List Prospect)
    (known : List Address) :
    chances (storing known) timing session (found.map Prod.fst) (found.map Prod.snd) = found := by
  induction found with
  | nil => rfl
  | cons attempt others induction =>
      have met : storing known
          (.connect attempt.1 session.heartbeatPort (some timing.connectTimeout))
          ((attempt :: others).map Prod.snd) = (attempt.2, others.map Prod.snd) := rfl
      exact (prospects_cons met).trans (congrArg _ induction)

/-- One address refuses and the other one runs out of time, so the controller announces itself anew. -/
theorem heartbeat_decided_by_addresses_recovers :
    let found : List Prospect :=
      [(.v6 [0, 0, 0, 0, 0, 0, 0, 1], .error (.system .connectionRefused)),
        (.v4 127 0 0 1, .error (.system .timedOut))]
    let session : Session := ⟨⟨"dgi", 4001, 4002⟩, 5000, 5001⟩
    let controller := (Controller.mk session.endpoint {} .empty .disconnected {}).opened session
    let network := storing (found.map Prod.fst)
    let outcomes := found.map Prod.snd
    let ended := (heartbeat {} session).run.run network outcomes
    asked network session outcomes = (.ok (found.map Prod.fst), outcomes) ∧
      Decided {} session found ended.trace ended.value ∧
      PeerLost network {} session outcomes ∧
      ∃ offered, Wire.calls (Controller.enact (Program.through (carry {} {}) network) Controller.beat
        controller outcomes).trace = [⟨.heartbeat session, ended.value⟩,
          ⟨.handshake controller.endpoint controller.roster.devices, offered⟩] := by
  intro found session controller network outcomes ended
  obtain ⟨_, met, followed⟩ := heartbeat_decided_by_addresses network {} {} session outcomes
  have resolved : asked network session outcomes = (.ok (found.map Prod.fst), outcomes) := rfl
  have chosen : chances network {} session (found.map Prod.fst) outcomes = found :=
    chances_storing {} session found _
  have decided := (met _ _ resolved).2
  rw [chosen] at decided
  have lost : PeerLost network {} session outcomes := by
    refine ⟨_, _, resolved, ?_⟩
    rw [chosen]
    exact ⟨by simp [InVain, found], _, _, rfl, .inl rfl⟩
  exact ⟨resolved, decided, lost, (followed controller rfl).1.mpr lost⟩

end StandIn.Tcp
