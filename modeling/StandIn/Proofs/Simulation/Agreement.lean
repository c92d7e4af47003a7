import StandIn.Proofs.Controller.Chronicle
import StandIn.Proofs.Controller.Sessions
import StandIn.Proofs.Controller.Statistics
import StandIn.Proofs.Simulation.Service
import StandIn.Proofs.Wire.Greetings

/-!
Controller and peer agree. What the peer has received is what the trace of the controller says that
it must have: the books of both are kept along the same trace, one call at a time.
-/

set_option autoImplicit false

namespace StandIn.Simulation

open Network (idle)
open Program (Answered)
open Wire (Trace answeredHellos isAnswered isHeard isMisanswered isMisled isRelease offered?
  rosterNext)

/-- The books of the peer over a trace: the answers it has given to Hellos and to disconnect
requests, what came of each, and what it has received for them. -/
structure Seen (endpoint : Endpoint) (roster : Roster) (offers partings : List (List UInt8))
    (trace : Trace) (before after : Ledger) : Prop where
  starts : before.starts = offers ++ after.starts
  outcomes : offers.map (offer endpoint) = trace.filterMap offered?
  hellos : after.hellos =
    before.hellos ++ (answeredHellos endpoint.listenPort roster trace).map Hello.text
  farewells : before.farewells = partings ++ after.farewells
  requests : after.requests =
    before.requests ++ List.replicate partings.length Tcp.disconnectRequest
  settled : partings.length =
    partings.countP isRejection + trace.countP isRelease + trace.countP isMisled
  heartbeats : after.heartbeats = before.heartbeats ++ List.replicate (trace.countP isHeard) ""

theorem seen_nothing (endpoint : Endpoint) (roster : Roster) (ledger : Ledger) :
    Seen endpoint roster [] [] [] ledger ledger := by
  constructor <;> simp [answeredHellos]

theorem Seen.cons {endpoint : Endpoint} {roster : Roster}
    {offers others partings rest : List (List UInt8)} {call : Exchange Wire.Answer} {trace : Trace}
    {before middle after : Ledger} (first : Seen endpoint roster offers partings [call] before middle)
    (later : Seen endpoint (rosterNext roster call) others rest trace middle after) :
    Seen endpoint roster (offers ++ others) (partings ++ rest) (call :: trace) before after where
  starts := by rw [first.starts, later.starts, List.append_assoc]
  outcomes := by
    rw [List.map_append, first.outcomes, later.outcomes, ← List.filterMap_append,
      List.singleton_append]
  hellos := by
    have split := Wire.answered_hellos_cons endpoint.listenPort roster call trace
    rw [later.hellos, first.hellos, split, List.map_append, List.append_assoc]
  farewells := by rw [first.farewells, later.farewells, List.append_assoc]
  requests := by
    rw [later.requests, first.requests, List.length_append, ← List.replicate_append_replicate,
      List.append_assoc]
  settled := by
    have early := first.settled
    have late := later.settled
    rw [← List.singleton_append]
    simp only [List.length_append, List.countP_append]
    omega
  heartbeats := by
    have split : call :: trace = [call] ++ trace := rfl
    rw [later.heartbeats, first.heartbeats, split, List.countP_append,
      ← List.replicate_append_replicate, List.append_assoc]

/-- A session with the peer, as the peer would have it. -/
structure Fits (endpoint : Endpoint) (peer : Peer) (session : Session) : Prop where
  settled : session.endpoint = endpoint
  statePort : session.statePort = peer.statePort
  heartbeatPort : Beatable peer session.heartbeatPort

/-- Every answer to a Hello that opens a session opens one on ports of the peer. -/
def Offers (endpoint : Endpoint) (peer : Peer) (starts : List (List UInt8)) : Prop :=
  ∀ answer ∈ starts, ∀ session, offer endpoint answer = .ok session →
    session.statePort = peer.statePort ∧ Beatable peer session.heartbeatPort

variable {endpoint : Endpoint} {peer : Peer} {taken : Option Port} {roster : Roster}
  {ledger : Ledger}

/-- A call that the peer hears nothing of leaves the books as they are. -/
theorem seen_unheard {call : Exchange Wire.Answer} (unanswered : isAnswered call = false)
    (kept : isRelease call = false) (understood : isMisled call = false)
    (unheard : isHeard call = false) : Seen endpoint roster [] [] [call] ledger ledger := by
  constructor <;> simp [answeredHellos, offered?, unanswered, kept, understood, unheard]

/-! ## One call -/

theorem offer_cases (endpoint : Endpoint) (answer : List UInt8) :
    (∃ session, offer endpoint answer = .ok session ∧ session.endpoint = endpoint) ∨
      (∃ reason, offer endpoint answer = .error (.protocol reason)) ∨
        ∃ reason, offer endpoint answer = .error (.configuration reason) :=
  Tcp.open_session_cases endpoint _

/-- An answer to a Hello is the end of the handshake, whatever it is. -/
theorem offer_answered (endpoint : Endpoint) (devices : List Device) (answer : List UInt8) :
    isAnswered ⟨.handshake endpoint devices, offer endpoint answer⟩ = true := by
  rcases offer_cases endpoint answer with ⟨_, same, _⟩ | ⟨_, same⟩ | ⟨_, same⟩
  · rw [same]
    rfl
  · rw [same]
    rfl
  · rw [same]
    rfl

theorem handshake_seen (facing : Facing endpoint peer) (suited : Offers endpoint peer ledger.starts) :
    let ended := (Tcp.handshake endpoint roster.devices).run.run Network.answer
      (idle taken (peer.holding ledger))
    ∃ offers changed, ended.state = idle taken (peer.holding changed) ∧
      Seen endpoint roster offers [] [⟨.handshake endpoint roster.devices, ended.value⟩] ledger
        changed ∧
      ∀ session, ended.value = .ok session → Fits endpoint peer session := by
  intro ended
  have went := Tcp.handshaking (Program.run_yields Network.answer
    (Tcp.handshake endpoint roster.devices).run (idle taken (peer.holding ledger)))
  have answered := Program.run_answered Network.answer
    (Tcp.handshake endpoint roster.devices).run (idle taken (peer.holding ledger))
  rcases handshaking_answered facing went answered with
    ⟨same, fault, failed⟩ | ⟨answer, more, given, outcome, same⟩
  · have result : ended.value = .error (.io fault) := failed
    rw [result]
    refine ⟨[], ledger, same, seen_unheard rfl rfl rfl rfl, ?_⟩
    intro session opened
    cases opened
  · have result : ended.value = offer endpoint answer := outcome
    rw [result]
    have heard := offer_answered endpoint roster.devices answer
    refine ⟨[answer], _, same, ?_, ?_⟩
    · constructor <;>
        simp [Ledger.greeted, given, answeredHellos, heard, offered?, Wire.announcement?, isRelease,
          isMisled, isHeard]
    · intro session opened
      have member : answer ∈ ledger.starts := by
        rw [given]
        exact List.mem_cons_self
      obtain ⟨statePort, heartbeatPort⟩ := suited answer member session opened
      rcases offer_cases endpoint answer with ⟨other, same, settled⟩ | ⟨_, same⟩ | ⟨_, same⟩
      · rw [same] at opened
        cases opened
        exact ⟨settled, statePort, heartbeatPort⟩
      · rw [same] at opened
        cases opened
      · rw [same] at opened
        cases opened

theorem heartbeat_seen (timing : HeartbeatTiming) {session : Session} (facing : Facing endpoint peer)
    (fits : Fits endpoint peer session) :
    let ended := (Tcp.heartbeat timing session).run.run Network.answer
      (idle taken (peer.holding ledger))
    ∃ changed, ended.state = idle taken (peer.holding changed) ∧
      Seen endpoint roster [] [] [⟨.heartbeat session, ended.value⟩] ledger changed := by
  intro ended
  have went := Tcp.pulsing (Program.run_yields Network.answer
    (Tcp.heartbeat timing session).run (idle taken (peer.holding ledger)))
  have answered := Program.run_answered Network.answer
    (Tcp.heartbeat timing session).run (idle taken (peer.holding ledger))
  rcases pulsing_answered facing fits.heartbeatPort went answered with
    ⟨same, fault, failed⟩ | ⟨same, succeeded⟩
  · have result : ended.value = .error fault := failed
    rw [result]
    exact ⟨ledger, same, seen_unheard rfl rfl rfl rfl⟩
  · have result : ended.value = .ok () := succeeded
    rw [result]
    refine ⟨ledger.felt, same, ?_⟩
    constructor <;> simp [Ledger.felt, answeredHellos, isAnswered, Wire.isOpening,
      Wire.isMisanswered, offered?, isRelease, isMisled, isHeard]

theorem settles_count (session : Session) (outcome : Except Fault UInt32) :
    let call : Exchange Wire.Answer := ⟨.disconnect session, outcome.map fun _ => ()⟩
    (settles outcome).toNat = [call].countP isRelease + [call].countP isMisled := by
  cases outcome with
  | ok number => rfl
  | error fault => cases fault <;> rfl

theorem disconnect_seen (policy : RetryPolicy) {session : Session} (facing : Facing endpoint peer)
    (fits : Fits endpoint peer session) :
    let ended := (Tcp.disconnect policy session).run Network.answer
      (idle taken (peer.holding ledger))
    ∃ partings changed, ended.state = idle taken (peer.holding changed) ∧
      Seen endpoint roster [] partings [⟨.disconnect session, ended.value⟩] ledger changed := by
  intro ended
  obtain ⟨outcome, negotiating, result⟩ := Tcp.disconnecting (Program.run_yields Network.answer
    (Tcp.disconnect policy session) (idle taken (peer.holding ledger)))
  have answered := Program.run_answered Network.answer (Tcp.disconnect policy session)
    (idle taken (peer.holding ledger))
  obtain ⟨partings, changed, parted, same⟩ :=
    negotiating_answered facing fits.settled fits.statePort negotiating answered
  have ending : ended.value = outcome.map fun _ => () := result
  have others := parted.others
  have counted := parted.counted
  rw [settles_count session] at counted
  rw [ending]
  refine ⟨partings, changed, same, ?_⟩
  constructor
  · rw [others]
    rfl
  · rfl
  · rw [others]
    exact (List.append_nil _).symm
  · exact parted.given
  · exact parted.requests
  · omega
  · rw [others]
    exact (List.append_nil _).symm

/-- Where the session that is open fits, a call keeps the books, and the session that is open after
it fits as well. -/
theorem call_seen (timing : HeartbeatTiming) (policy : RetryPolicy) (facing : Facing endpoint peer)
    (suited : Offers endpoint peer ledger.starts) {opened : Option Session} (request : Wire)
    (fits : ∀ session, opened = some session → Fits endpoint peer session)
    (allowed : Wire.Allowed opened request)
    (announced : ∀ there devices, request = .handshake there devices →
      there = endpoint ∧ devices = roster.devices) :
    let carried := Program.through (Tcp.carry timing policy) Network.answer request
      (idle taken (peer.holding ledger))
    ∃ offers partings changed, carried.2 = idle taken (peer.holding changed) ∧
      Seen endpoint roster offers partings [⟨request, carried.1⟩] ledger changed ∧
      ∀ session, Wire.openNext opened ⟨request, carried.1⟩ = some session →
        Fits endpoint peer session := by
  intro carried
  cases request with
  | narrate line => exact ⟨[], [], ledger, rfl, seen_unheard rfl rfl rfl rfl, fits⟩
  | pause seconds =>
      refine ⟨[], [], ledger, rfl, seen_unheard rfl rfl rfl rfl, ?_⟩
      intro session stillOpen
      cases stillOpen
  | handshake there devices =>
      obtain ⟨rfl, rfl⟩ := announced there devices rfl
      obtain ⟨offers, changed, same, seen, fitting⟩ := handshake_seen facing suited
      refine ⟨offers, [], changed, same, seen, ?_⟩
      intro session anew
      exact fitting session (Wire.open_next_handshake anew)
  | heartbeat session =>
      obtain ⟨changed, same, seen⟩ := heartbeat_seen timing facing (fits session allowed)
      refine ⟨[], [], changed, same, seen, ?_⟩
      intro other stillOpen
      exact fits other (Wire.open_next_heartbeat stillOpen)
  | disconnect session =>
      obtain ⟨partings, changed, same, seen⟩ := disconnect_seen policy facing (fits session allowed)
      refine ⟨[], partings, changed, same, seen, ?_⟩
      intro other stillOpen
      cases stillOpen

theorem Seen.suited {offers partings : List (List UInt8)} {trace : Trace} {before after : Ledger}
    (seen : Seen endpoint roster offers partings trace before after)
    (suited : Offers endpoint peer before.starts) : Offers endpoint peer after.starts := by
  intro answer member
  apply suited
  rw [seen.starts]
  exact List.mem_append_right offers member

/-! ## All calls -/

/-- From the books of the calls come the books of a trace, as long as each call is allowed where it is
made and announces the roster of its moment. -/
theorem trace_seen (timing : HeartbeatTiming) (policy : RetryPolicy) (facing : Facing endpoint peer)
    {opened : Option Session} {trace : Trace} {network after : Network}
    (suited : Offers endpoint peer ledger.starts)
    (fits : ∀ session, opened = some session → Fits endpoint peer session)
    (orderly : Wire.Orderly opened trace) (current : Wire.Current endpoint roster trace)
    (started : network = idle taken (peer.holding ledger))
    (answered : Answered (Program.through (Tcp.carry timing policy) Network.answer) network trace
      after) :
    ∃ offers partings changed, after = idle taken (peer.holding changed) ∧
      Seen endpoint roster offers partings trace ledger changed := by
  -- The monitor's session, the roster and the ledger all move with the trace.
  induction answered generalizing opened roster ledger with
  | nil network => exact ⟨[], [], ledger, started, seen_nothing endpoint roster ledger⟩
  | @cons network after request trace _ induction =>
      subst started
      obtain ⟨allowed, orderly⟩ := orderly
      have announced : ∀ there devices, request = .handshake there devices →
          there = endpoint ∧ devices = roster.devices := by
        rintro there devices rfl
        exact current.now
      obtain ⟨offers, partings, middle, same, first, fitting⟩ :=
        call_seen timing policy facing suited request fits allowed announced
      obtain ⟨others, rest, changed, ended, later⟩ :=
        induction (first.suited suited) fitting orderly current.next same
      exact ⟨offers ++ others, partings ++ rest, changed, ended, first.cons later⟩

/-! ## Histories -/

theorem history_orderly {State : Type} (behaviour : Behaviour Wire.Answer State) (start : State)
    (endpoint : Endpoint) (options : Options) (steps : List Step) :
    Wire.Orderly none
      (((Controller.fresh endpoint options).converseAll steps).run behaviour start).trace := by
  have initially : Controller.Monitored [] (Controller.fresh endpoint options) := ⟨trivial, rfl⟩
  have monitored := Controller.history_keeps behaviour start (Controller.fresh endpoint options)
    steps initially fun monitored move => monitored.move move
  exact monitored.orderly

/-- A controller talks to the scripted peer over sockets, for whatever steps, timing and retry
policy. The Hellos that the peer has received are those of the handshakes that succeeded or failed
with a senseless answer, each with the roster of its moment, and the n-th answer of the peer is what
came of the n-th of them. Every request it has received is to be let go; they are as many as the
disconnects that succeeded, the answers that reject one, and the disconnects that failed with a
senseless answer. It has received one heartbeat for each that was counted. -/
theorem controller_and_peer_agree (endpoint : Endpoint) (options : Options) (peer : Peer)
    (taken : Option Port) (starts farewells : List (List UInt8)) (timing : HeartbeatTiming)
    (policy : RetryPolicy) (steps : List Step) (facing : Facing endpoint peer)
    (suited : Offers endpoint peer starts) :
    let network := idle taken (peer.holding { starts := starts, farewells := farewells })
    let history := (Controller.fresh endpoint options).converseAll steps
    let finished := (history.perform (Tcp.carry timing policy)).run Network.answer network
    let wire := history.run (Program.through (Tcp.carry timing policy) Network.answer) network
    let stats := finished.value.2.stats
    finished.value = wire.value ∧
      finished.value.2.roster = Roster.empty.replay (Wire.commands wire.trace) ∧
      ∃ seen, finished.state = idle taken (peer.holding seen) ∧
        (seen.hellos = (answeredHellos endpoint.listenPort .empty wire.trace).map Hello.text ∧
          seen.hellos.length = stats.handshakes + wire.trace.countP isMisanswered ∧
          (starts.take seen.hellos.length).map (offer endpoint) = wire.trace.filterMap offered?) ∧
        ((∀ request ∈ seen.requests, request = "PoliteDisconnect\r\n\r\n") ∧
          seen.requests.length = stats.disconnects +
            (farewells.take seen.requests.length).countP isRejection +
              wire.trace.countP isMisled) ∧
        seen.heartbeats.length = stats.heartbeats := by
  intro network history finished wire stats
  obtain ⟨sameValue, sameState⟩ :=
    Program.run_perform (Tcp.carry timing policy) Network.answer history network
  have value : finished.value = wire.value := sameValue
  have state : finished.state = wire.state := sameState
  have orderly := history_orderly (Program.through (Tcp.carry timing policy) Network.answer) network
    endpoint options steps
  obtain ⟨commands, chronicle, _⟩ := Controller.history_chronicle
    (Program.through (Tcp.carry timing policy) Network.answer) network
    (Controller.fresh endpoint options) steps
  have books := Controller.history_accounts
    (Program.through (Tcp.carry timing policy) Network.answer) network
    (Controller.fresh endpoint options) steps
  have noneFits : ∀ session, (none : Option Session) = some session →
      Fits endpoint peer session := by
    intro session opened
    cases opened
  obtain ⟨offers, partings, seen, ended, account⟩ := trace_seen timing policy facing suited noneFits
    orderly chronicle.current rfl
    (Program.run_answered (Program.through (Tcp.carry timing policy) Network.answer) history network)
  have greetings : seen.hellos =
      (answeredHellos endpoint.listenPort .empty wire.trace).map Hello.text := account.hellos
  have requests : seen.requests = List.replicate partings.length Tcp.disconnectRequest :=
    account.requests
  have heartbeats : seen.heartbeats = List.replicate (wire.trace.countP isHeard) "" :=
    account.heartbeats
  have given : starts = offers ++ seen.starts := account.starts
  have parted : farewells = partings ++ seen.farewells := account.farewells
  have counters : stats = wire.value.2.stats := congrArg (fun ended => ended.2.stats) value
  refine ⟨value, ?_, seen, state.trans ended, ⟨greetings, ?_, ?_⟩, ⟨?_, ?_⟩, ?_⟩
  · rw [value, chronicle.told]
    exact chronicle.replayed
  · have handshakes : wire.value.2.stats.handshakes = wire.trace.countP Wire.isOpening :=
      books.handshakes.trans (Nat.zero_add _)
    rw [greetings, List.length_map, Wire.answered_hellos_length, Wire.count_answered, counters,
      handshakes]
  · have length : seen.hellos.length = offers.length := by
      rw [greetings, List.length_map, Wire.answered_hellos_length, ← Wire.offered_length,
        ← account.outcomes, List.length_map]
    rw [length, given, List.take_left]
    exact account.outcomes
  · intro request member
    rw [requests] at member
    exact List.eq_of_mem_replicate member
  · have disconnects : wire.value.2.stats.disconnects = wire.trace.countP isRelease :=
      books.disconnects.trans (Nat.zero_add _)
    have settled : partings.length = partings.countP isRejection + wire.trace.countP isRelease +
      wire.trace.countP isMisled := account.settled
    rw [requests, List.length_replicate, parted, List.take_left, counters, disconnects]
    omega
  · have heard : wire.value.2.stats.heartbeats = wire.trace.countP isHeard :=
      books.heartbeats.trans (Nat.zero_add _)
    rw [heartbeats, List.length_replicate, counters, heard]

/-- The first disconnect is rejected once, and the handshake after it is answered with nonsense. -/
theorem controller_and_peer_agree_rejected :
    let endpoint : Endpoint := ⟨"localhost", 10002, 10001⟩
    let peer : Peer :=
      { answersTo := 10001, handshakePort := 10002, statePort := 10003, heartbeatPort := 10004
        timeoutPort := 10006 }
    let starts := ["StatePort 10003 HeartbeatPort 10004\r\n\r\n", "Accepted\r\n\r\n"].map Text.bytesOf
    let farewells := ["Rejected\r\n\r\n", "Accepted\r\n\r\n"].map Text.bytesOf
    let network := idle none (peer.holding { starts := starts, farewells := farewells })
    let steps : List Step := [.run ["enable light L1", "enable sst S1"]]
    let history := (Controller.fresh endpoint {}).converseAll steps
    let finished := (history.perform (Tcp.carry {} {})).run Network.answer network
    Facing endpoint peer ∧ Offers endpoint peer starts ∧
      finished.value.2.stats = ⟨2, 1, 1, 1, 0⟩ ∧
      ∃ seen, finished.state = idle none (peer.holding seen) ∧ seen.hellos.length = 2 ∧
        (∀ request ∈ seen.requests, request = "PoliteDisconnect\r\n\r\n") ∧
          seen.heartbeats.length = 1 := by
  intro endpoint peer starts farewells network steps history finished
  let wire := history.run (Program.through (Tcp.carry {} {}) Network.answer) network
  have facing : Facing endpoint peer := ⟨rfl, rfl, by decide⟩
  have opening : (offer endpoint (Text.bytesOf
      "StatePort 10003 HeartbeatPort 10004\r\n\r\n")).toOption = some ⟨endpoint, 10003, 10004⟩ := by
    decide +kernel
  have senseless : (offer endpoint (Text.bytesOf "Accepted\r\n\r\n")).toOption = none := by
    decide +kernel
  have suited : Offers endpoint peer starts := by
    intro answer member session opened
    simp only [starts, List.map_cons, List.map_nil, List.mem_cons, List.not_mem_nil, or_false]
      at member
    rcases member with rfl | rfl
    · rw [opened] at opening
      cases opening
      exact ⟨rfl, .own rfl⟩
    · rw [opened] at senseless
      cases senseless
  have counters : finished.value.2.stats = ⟨2, 1, 1, 1, 0⟩ := by decide +kernel
  have misanswered : wire.trace.countP isMisanswered = 1 := by decide +kernel
  obtain ⟨_, _, seen, state, ⟨_, hellos, _⟩, ⟨requests, _⟩, heartbeats⟩ :=
    controller_and_peer_agree endpoint {} peer none starts farewells {} {} steps facing suited
  unfold finished wire history network at *
  rw [counters] at hellos heartbeats
  rw [misanswered] at hellos
  exact ⟨facing, suited, counters, seen, state, hellos, requests, heartbeats⟩

end StandIn.Simulation
