import StandIn.Proofs.Negotiation.Attempts
import StandIn.Proofs.Reply.Announcement
import StandIn.Proofs.Simulation.Service
import StandIn.Proofs.Tcp.Bounded

/-!
A peer that can be reached. On the network with one scripted peer every exchange with a peer that is
there, and has an answer left, comes to its reading, and reads of the answer what there is room for.
-/

set_option autoImplicit false

namespace StandIn.Simulation

open Network (idle awaiting answer Takes Served connect_cases contacting_answered delivered_accepting
  listened told_first)
open Program (Answered answered_nil answered_cons answered_append)
open Tcp (Connecting Delivering Contacting Exchanging Handshaking Asking Negotiating Recorded
  Reached reads)

/-- The host is one where somebody lives, the port of one's own is to be had, and connections to the
port of the peer do not run out of time. -/
structure Reachable (host : String) (listenPort port : Port) (taken : Option Port) (peer : Peer) :
    Prop where
  known : ∃ addresses, resolve host = .ok addresses ∧ liveHost ∈ addresses
  free : taken ≠ some listenPort
  inTime : peer.timeoutPort ≠ port

/-- What a peer has received, and what it still has to answer. -/
def Peer.ledger (peer : Peer) : Ledger :=
  ⟨peer.starts, peer.farewells, peer.hellos, peer.requests, peer.heartbeats⟩

variable {endpoint : Endpoint} {peer : Peer} {taken : Option Port} {ledger : Ledger}
  {network after : Network} {trace : Socket.Trace} {host message what : String}
  {listenPort port : Port} {capacity : Nat} {early late : List Narration}

/-! ## Connecting and delivering -/

theorem connect_live {party : Party} (takes : Takes network port party) (limit : Option Nat) :
    network.connect liveHost port limit = (.ok (), { network with outgoing := some (party, "") }) := by
  have inTime : ¬ network.peer.any (·.timeoutPort = port) = true := by
    rw [takes.reached]
    exact Bool.false_ne_true
  simp only [Network.connect, ne_eq, not_true_eq_false, if_false, if_neg inTime, takes.found]

/-- The addresses before the one where somebody lives are tried in vain, and then it is its turn. -/
theorem connecting_lives {party : Party} {limit : Option Nat} {fault : IoFault}
    {addresses : List Address} {result : Except IoFault Unit} (takes : Takes network port party)
    (lives : liveHost ∈ addresses) (connecting : Connecting port limit fault addresses trace result)
    (answered : Answered answer network trace after) : result = .ok () := by
  induction connecting with
  | exhausted => cases lives
  | connected => rfl
  | failed fault address next _ induction =>
      obtain ⟨reply, rest⟩ := answered_cons answered
      rcases connect_cases network address port limit with ⟨failed, same⟩ | ⟨_, _, same⟩
      · rw [answer, same] at rest
        rcases List.mem_cons.mp lives with rfl | later
        · rw [connect_live takes] at same
          cases same
        · exact induction later rest
      · rw [answer, same] at reply
        cases reply

theorem delivering_lives {party : Party} {result : Except Fault Unit}
    (takes : Takes network port party)
    (known : ∃ addresses, resolve host = .ok addresses ∧ liveHost ∈ addresses)
    (delivering : Delivering host port message trace result)
    (answered : Answered answer network trace after) : result = .ok () := by
  obtain ⟨addresses, resolved, lives⟩ := known
  cases delivering with
  | unresolved fault =>
      have reply := (answered_cons answered).1
      rw [answer, resolved] at reply
      cases reply
  | unconnected found fault connecting =>
      obtain ⟨reply, tried⟩ := answered_cons answered
      rw [answer, resolved] at reply
      cases reply
      cases connecting_lives takes lives connecting tried
  | unsent found fault connecting =>
      obtain ⟨middle, _, sending⟩ := answered_append (answered_cons answered).2
      cases (answered_cons sending).1
  | delivered => rfl

/-! ## Exchanges -/

theorem contacting_lives {party : Party} {result : Except Fault Unit}
    (answers : peer.answersTo = listenPort) (away : port ≠ listenPort)
    (unlike : port ≠ peer.heartbeatPort)
    (takes : Takes (awaiting taken (peer.holding ledger) listenPort) port party)
    (known : ∃ addresses, resolve host = .ok addresses ∧ liveHost ∈ addresses)
    (contacting : Contacting host port message early late trace result)
    (answered : Answered answer (awaiting taken (peer.holding ledger) listenPort) trace after) :
    result = .ok () := by
  cases contacting with
  | undelivered delivering => cases delivering_lives takes known delivering (told_first answered)
  | unaccepted delivering fault =>
      obtain ⟨_, _, _, accepting⟩ := delivered_accepting answers away unlike delivering answered
      cases (answered_cons accepting).1
  | accepted => rfl

theorem listen_free (free : taken ≠ some listenPort)
    (unused : peer.party? listenPort = none) :
    (idle taken peer).listen listenPort = (.ok (), awaiting taken peer listenPort) := by
  simp [Network.listen, idle, awaiting, free, unused]

/-- An exchange with a peer that can be reached reads the answer of the peer. -/
theorem exchanging_lives {party : Party} {result : Except Fault String}
    (answers : peer.answersTo = listenPort) (away : port ≠ listenPort)
    (unlike : port ≠ peer.heartbeatPort) (free : taken ≠ some listenPort)
    (unused : (peer.holding ledger).party? listenPort = none)
    (takes : Takes (awaiting taken (peer.holding ledger) listenPort) port party)
    (known : ∃ addresses, resolve host = .ok addresses ∧ liveHost ∈ addresses)
    (exchanging : Exchanging listenPort host port message early late capacity what trace result)
    (answered : Answered answer (idle taken (peer.holding ledger)) trace after) :
    ∃ reply changed text, Served peer port message reply ledger changed ∧ result = .ok text ∧
      Reached capacity [reply] trace := by
  cases exchanging with
  | busy fault =>
      have reply := (answered_cons answered).1
      rw [answer, listen_free free unused] at reply
      cases reply
  | missed contacting =>
      obtain ⟨middle, met, _⟩ := answered_append (listened answered)
      cases contacting_lives answers away unlike takes known contacting met
  | unread contacting fault =>
      obtain ⟨middle, _, releasing⟩ := answered_append (listened answered)
      cases (answered_cons (answered_cons releasing).2).1
  | read contacting bytes =>
      obtain ⟨middle, met, releasing⟩ := answered_append (listened answered)
      have received := (answered_cons (answered_cons releasing).2).1
      rcases contacting_answered answers away unlike contacting met with
        ⟨_, _, failed⟩ | ⟨reply, changed, served, rfl, _⟩
      · cases failed
      · cases received
        have recorded := Tcp.recorded_read listenPort capacity what contacting (reply.take capacity)
        exact ⟨reply, changed, _, served, rfl, recorded.begun, recorded.replies⟩

/-! ## Calls -/

theorem Facing.unused (facing : Facing endpoint peer) :
    (peer.holding ledger).party? endpoint.listenPort = none := by
  obtain ⟨⟨_, _, greeting⟩, ⟨_, asking⟩, beating⟩ := facing.apart
  cases found : (peer.holding ledger).party? endpoint.listenPort with
  | none => rfl
  | some party =>
      rcases Network.party_cases found with ⟨there, _⟩ | ⟨_, there, _⟩ | ⟨there, _⟩
      · exact absurd there.symm greeting
      · exact absurd there.symm asking
      · exact absurd there.symm beating

theorem takes_there {party : Party} (away : port ≠ listenPort) (inTime : peer.timeoutPort ≠ port)
    (found : (peer.holding ledger).party? port = some party) :
    Takes (awaiting taken (peer.holding ledger) listenPort) port party where
  reached := by simp [awaiting, Peer.holding, inTime]
  found := by
    have elsewhere : ¬ some listenPort = some port := fun same => away (Option.some.inj same).symm
    exact (if_neg elsewhere).trans found

theorem handshaking_reached (ledger : Ledger) {reply : List UInt8} {more : List (List UInt8)}
    {devices : List Device} {result : Except Fault Session} (facing : Facing endpoint peer)
    (reachable : Reachable endpoint.peerHost endpoint.listenPort peer.handshakePort taken peer)
    (given : ledger.starts = reply :: more)
    (handshaking : Handshaking endpoint devices trace result)
    (answered : Answered answer (idle taken (peer.holding ledger)) trace after) :
    Reached Tcp.startCapacity [reply] trace := by
  obtain ⟨⟨_, unlike, away⟩, _, _⟩ := facing.apart
  have takes : Takes (awaiting taken (peer.holding ledger) endpoint.listenPort) peer.handshakePort
      .hello := takes_there away reachable.inTime (by simp [Peer.party?, Peer.holding, given])
  have greets : ∀ {trace : Socket.Trace} {result : Except Fault String} {after : Network},
      Tcp.Greeting endpoint devices trace result →
        Answered answer (idle taken (peer.holding ledger)) trace after →
          ∃ text, result = .ok text ∧ Reached Tcp.startCapacity [reply] trace := by
    intro trace result after greeting answered
    unfold Tcp.Greeting at greeting
    rw [facing.there] at greeting
    obtain ⟨read, changed, text, served, success, reached⟩ := exchanging_lives facing.back away
      unlike reachable.free facing.unused takes reachable.known greeting answered
    cases served with
    | hello there held =>
        cases given.symm.trans held
        exact ⟨text, success, reached⟩
    | request elsewhere => exact absurd rfl elsewhere
  cases handshaking with
  | failed greeting =>
      obtain ⟨text, success, _⟩ := greets greeting answered
      cases success
  | answered greeting =>
      obtain ⟨middle, greeted, _⟩ := answered_append answered
      obtain ⟨text, _, reached⟩ := greets greeting greeted
      exact reached.quiet (Tcp.recorded_told _)

/-- An attempt hears the next answer. -/
theorem asking_reached (ledger : Ledger) {reply : List UInt8} {more : List (List UInt8)}
    {session : Session} {number : UInt32} {result : Except Fault Reply} (facing : Facing endpoint peer)
    (settled : session.endpoint = endpoint) (suited : session.statePort = peer.statePort)
    (reachable : Reachable endpoint.peerHost endpoint.listenPort peer.statePort taken peer)
    (given : ledger.farewells = reply :: more) (asking : Asking session number trace result)
    (answered : Answered answer (idle taken (peer.holding ledger)) trace after) :
    result = .ok (farewell reply) ∧ Reached Tcp.disconnectCapacity [reply] trace := by
  obtain ⟨⟨elsewhere, _, _⟩, ⟨unlike, away⟩, _⟩ := facing.apart
  have takes : Takes (awaiting taken (peer.holding ledger) endpoint.listenPort)
      peer.statePort .request :=
    takes_there away reachable.inTime (by simp [Peer.party?, Peer.holding, given, elsewhere.symm])
  have requests : ∀ {result : Except Fault String}, Tcp.Requesting session number trace result →
      ∃ text, result = .ok text ∧ Reached Tcp.disconnectCapacity [reply] trace := by
    intro result requesting
    unfold Tcp.Requesting at requesting
    rw [settled, suited] at requesting
    obtain ⟨read, changed, text, served, success, reached⟩ := exchanging_lives facing.back away
      unlike reachable.free facing.unused takes reachable.known requesting answered
    cases served with
    | hello there => exact absurd there.symm elsewhere
    | request _ there held =>
        cases given.symm.trans held
        exact ⟨text, success, reached⟩
  have heard := asking_answered facing settled suited asking answered
  cases asking with
  | failed requesting =>
      obtain ⟨text, success, _⟩ := requests requesting
      cases success
  | answered requesting =>
      obtain ⟨_, _, reached⟩ := requests requesting
      rcases heard with ⟨_, fault, failed⟩ | ⟨_, _, held, same, _⟩
      · cases failed
      · cases given.symm.trans held
        exact ⟨same, reached⟩

/-- The answers up to and with the first that is no rejection. -/
def untilSettled : List (List UInt8) → List (List UInt8)
  | [] => []
  | answer :: more => if isRejection answer then answer :: untilSettled more else [answer]

theorem until_settled_last {reply : List UInt8} (more : List (List UInt8)) {count : Nat}
    (positive : 0 < count) (last : isRejection reply = false ∨ count ≤ 1) :
    (untilSettled (reply :: more)).take count = [reply] := by
  rcases last with settled | once
  · rw [untilSettled, settled, if_neg Bool.false_ne_true]
    exact List.take_of_length_le positive
  · have one : count = 1 := by omega
    rw [one, untilSettled]
    split <;> rfl

theorem until_settled_rejected {reply : List UInt8} (more : List (List UInt8)) (count : Nat)
    (rejected : isRejection reply = true) :
    (untilSettled (reply :: more)).take (count + 1) = reply :: (untilSettled more).take count := by
  rw [untilSettled, rejected, if_pos rfl, List.take_succ_cons]

/-- So many attempts do not run out of answers: there are as many, or one that ends the negotiation. -/
def Suffice (answers : List (List UInt8)) (count : Nat) : Prop :=
  (∃ answer ∈ answers, isRejection answer = false) ∨ count ≤ answers.length

theorem Suffice.next {answers : List (List UInt8)} {count : Nat} (suffice : Suffice answers count)
    (positive : 0 < count) : ∃ reply more, answers = reply :: more := by
  apply List.exists_cons_of_ne_nil
  rintro rfl
  rcases suffice with ⟨_, member, _⟩ | enough
  · cases member
  · exact Nat.not_le_of_lt positive enough

theorem Suffice.later {reply : List UInt8} {more : List (List UInt8)} {count : Nat}
    (suffice : Suffice (reply :: more) (count + 1)) (rejected : isRejection reply = true) :
    Suffice more count := by
  rcases suffice with ⟨answer, member, other⟩ | enough
  · rcases List.mem_cons.mp member with rfl | behind
    · rw [rejected] at other
      cases other
    · exact .inl ⟨answer, behind, other⟩
  · exact .inr (Nat.le_of_succ_le_succ enough)

/-- The last attempt of a negotiation reads the last answer that counts: either it is no rejection, or
no other attempt is made. -/
theorem asking_last (ledger : Ledger) {count : Nat} {session : Session} {number : UInt32}
    {reply : Reply} (facing : Facing endpoint peer) (settled : session.endpoint = endpoint)
    (suited : session.statePort = peer.statePort)
    (reachable : Reachable endpoint.peerHost endpoint.listenPort peer.statePort taken peer)
    (positive : 0 < count) (suffice : Suffice ledger.farewells count)
    (last : reply ≠ .rejected ∨ count ≤ 1) (asking : Asking session number trace (.ok reply))
    (answered : Answered answer (idle taken (peer.holding ledger)) trace after) :
    Reached Tcp.disconnectCapacity ((untilSettled ledger.farewells).take count) trace := by
  obtain ⟨heard, more, given⟩ := suffice.next positive
  obtain ⟨same, reached⟩ :=
    asking_reached ledger facing settled suited reachable given asking answered
  have final : isRejection heard = false ∨ count ≤ 1 := by
    refine last.imp_left fun other => ?_
    simpa [isRejection, ← Except.ok.inj same] using other
  rw [given, until_settled_last more positive final]
  exact reached

/-- A negotiation that is to come to its end reads the answers up to and with the first that is no
rejection, or as many as its policy makes attempts. -/
theorem negotiating_reached (ledger : Ledger) {policy : RetryPolicy} {session : Session}
    {left made : Nat} {number : UInt32} {result : Except Fault UInt32} (facing : Facing endpoint peer)
    (settled : session.endpoint = endpoint) (suited : session.statePort = peer.statePort)
    (reachable : Reachable endpoint.peerHost endpoint.listenPort peer.statePort taken peer)
    (counted : number = Negotiation.numberAfter made)
    (countable : left = Negotiation.lastAttempt - 1 - made) (room : made < policy.limit)
    (suffice : Suffice ledger.farewells (policy.limit - made))
    (negotiating : Negotiating policy session left number trace result)
    (answered : Answered answer (idle taken (peer.holding ledger)) trace after) :
    Reached Tcp.disconnectCapacity ((untilSettled ledger.farewells).take (policy.limit - made))
      trace := by
  -- Each attempt leaves one answer less to those after it.
  induction negotiating generalizing ledger made with
  | failed left asking =>
      obtain ⟨reply, more, given⟩ := suffice.next (Nat.sub_pos_of_lt room)
      cases (asking_reached ledger facing settled suited reachable given asking answered).1
  | accepted left asking =>
      obtain ⟨middle, asked, _⟩ := answered_append answered
      have agreed : Reply.accepted ≠ .rejected := nofun
      have reached := asking_last ledger facing settled suited reachable (Nat.sub_pos_of_lt room)
        suffice (.inl agreed) asking asked
      exact reached.quiet (Tcp.recorded_told _)
  | senseless left reason asking _ other =>
      exact asking_last ledger facing settled suited reachable (Nat.sub_pos_of_lt room) suffice
        (.inl other) asking answered
  | refused left asking exhausted =>
      obtain ⟨middle, asked, _⟩ := answered_append answered
      have countRoom := Nat.lt_of_lt_of_le room (Negotiation.limit_le_last policy)
      rw [counted] at exhausted
      have last := (Negotiation.limit_reached_iff countRoom).mpr (.inl exhausted)
      have reached := asking_last ledger facing settled suited reachable (Nat.sub_pos_of_lt room)
        suffice (.inr (by omega)) asking asked
      exact reached.quiet (Tcp.recorded_told _)
  | overflowed asking allowed =>
      obtain ⟨middle, asked, _⟩ := answered_append answered
      have within := Negotiation.limit_le_last policy
      have reached := asking_last ledger facing settled suited reachable (Nat.sub_pos_of_lt room)
        suffice (.inr (by omega)) asking asked
      exact reached.quiet ((Tcp.recorded_told _).append (Tcp.recorded_pausing _))
  | @again left number trace others result asking allowed _ induction =>
      obtain ⟨middle, asked, others⟩ := answered_append answered
      obtain ⟨last, waiting, anew⟩ := answered_append (told_first others)
      cases pausing_answered waiting
      obtain ⟨reply, more, given, understood, rfl⟩ :=
        asking_reply facing settled suited asking asked
      have rejected : isRejection reply = true := by simp [isRejection, understood]
      obtain ⟨_, reached⟩ := asking_reached ledger facing settled suited reachable given asking asked
      have countRoom := Nat.lt_of_lt_of_le room (Negotiation.limit_le_last policy)
      have further : ¬ policy.limit ≤ made + 1 := by
        rw [Negotiation.limit_reached_iff countRoom, ← counted, allowed]
        simp only [Bool.false_eq_true, false_or]
        omega
      have fewer : policy.limit - made = policy.limit - (made + 1) + 1 := by omega
      have left : (ledger.asked Tcp.disconnectRequest).farewells = more := by
        simp [Ledger.asked, given]
      rw [given, fewer] at suffice ⊢
      rw [until_settled_rejected more _ rejected]
      have rest := induction (ledger.asked Tcp.disconnectRequest)
        (by rw [counted, Negotiation.number_after_succ]) (by omega) (by omega)
        (by rw [left]; exact suffice.later rejected) anew
      rw [left] at rest
      have whole := (reached.quiet
        ((Tcp.recorded_told [.rejected number]).append (Tcp.recorded_pausing policy))).append rest
      rw [List.append_assoc, List.append_assoc] at whole
      exact whole

/-! ## Bounded readings -/

/-- Replies are read once and no further than there is room, 64 bytes for the answer to a Hello and
32 for that to each disconnect request, and as long as nothing warns of it that makes no difference:
for single answers and for whole negotiations. Of a reply in valid UTF-8 that is cut, the longest
beginning in whole characters is understood, with one U+FFFD if a character was cut. An announcement
of two ports always has room. On the network with one peer that can be reached, exchanges do read
their replies: a handshake and an attempt to leave the next one that the peer gives, and a negotiation
those up to and with the first that is no rejection, or as many as its policy makes attempts. -/
theorem bounded_readings_are_sound :
    (∀ endpoint devices, Tcp.SoundlyCut (Tcp.handshake endpoint devices).run 64 "Start"
      (Tcp.Opens endpoint)) ∧
    (∀ session number, Tcp.SoundlyCut (Tcp.askToLeave session number).run 32 "disconnect"
      Tcp.Answers) ∧
    (∀ policy session, Tcp.SoundlyCut (Tcp.disconnect policy session) 32 "disconnect"
      (Tcp.Settles policy)) ∧
    (∀ (text : String) (capacity : Nat), capacity < (Text.bytesOf text).length →
      ∃ kept, Text.LongestFit text capacity kept ∧
        Text.decodeLossy ((Text.bytesOf text).take capacity) =
          kept ++ if (Text.bytesOf kept).length = capacity then "" else "\uFFFD") ∧
    (∀ (State : Type) (behaviour : Behaviour Socket.Answer State) (start : State)
      (endpoint : Endpoint) (devices : List Device) (statePort heartbeatPort : Port),
        let finished := (Tcp.handshake endpoint devices).run.run behaviour start
        Reached 64 [Text.bytesOf (Reply.announcement statePort heartbeatPort)] finished.trace →
          finished.value = .ok ⟨endpoint, statePort, heartbeatPort⟩ ∧
            .truncated "Start" 64 ∉ narrated finished.trace) ∧
    (∀ (endpoint : Endpoint) (devices : List Device) (peer : Peer) (taken : Option Port)
      (reply : List UInt8) (more : List (List UInt8)), Facing endpoint peer →
        Reachable endpoint.peerHost endpoint.listenPort peer.handshakePort taken peer →
          peer.starts = reply :: more → Reached 64 [reply]
            ((Tcp.handshake endpoint devices).run.run answer (idle taken peer)).trace) ∧
    (∀ (session : Session) (peer : Peer) (taken : Option Port), Facing session.endpoint peer →
      session.statePort = peer.statePort →
        Reachable session.endpoint.peerHost session.endpoint.listenPort peer.statePort taken peer →
          (∀ number reply more, peer.farewells = reply :: more → Reached 32 [reply]
            ((Tcp.askToLeave session number).run.run answer (idle taken peer)).trace) ∧
          ∀ policy : RetryPolicy, Suffice peer.farewells policy.limit →
            Reached 32 ((untilSettled peer.farewells).take policy.limit)
              ((Tcp.disconnect policy session).run answer (idle taken peer)).trace) := by
  refine ⟨Tcp.handshake_soundly_cut, Tcp.ask_to_leave_soundly_cut, Tcp.disconnect_soundly_cut,
    fun _ _ => Text.decode_lossy_cut, ?_, ?_, ?_⟩
  · intro State behaviour start endpoint devices statePort heartbeatPort finished reached
    have sound := Tcp.handshake_soundly_cut endpoint devices
    have room := Reply.announcement_short statePort heartbeatPort
    have unwarned := sound.warned behaviour start _ reached
    have silent : .truncated "Start" 64 ∉ narrated finished.trace := by
      rw [List.countP_singleton, if_neg (by simpa using room)] at unwarned
      exact List.count_eq_zero.mp unwarned
    obtain ⟨text, same, opened⟩ := sound.whole behaviour start _ reached silent
    cases same
    refine ⟨?_, silent⟩
    rw [Text.decode_lossy_bytes, Reply.open_session_announcement] at opened
    exact opened
  · intro endpoint devices peer taken reply more facing reachable given
    have yields := Program.run_yields answer (Tcp.handshake endpoint devices).run (idle taken peer)
    have answered := Program.run_answered answer (Tcp.handshake endpoint devices).run (idle taken peer)
    exact handshaking_reached peer.ledger facing reachable given (Tcp.handshaking yields) answered
  · intro session peer taken facing suited reachable
    refine ⟨?_, ?_⟩
    · intro number reply more given
      have yields := Program.run_yields answer (Tcp.askToLeave session number).run (idle taken peer)
      have answered := Program.run_answered answer (Tcp.askToLeave session number).run
        (idle taken peer)
      exact (asking_reached peer.ledger facing rfl suited reachable given (Tcp.asking yields)
        answered).2
    · intro policy suffice
      have yields := Program.run_yields answer (Tcp.disconnect policy session) (idle taken peer)
      have answered := Program.run_answered answer (Tcp.disconnect policy session) (idle taken peer)
      obtain ⟨outcome, negotiating, _⟩ := Tcp.disconnecting yields
      exact negotiating_reached peer.ledger facing rfl suited reachable rfl rfl
        (Negotiation.limit_pos policy) suffice negotiating answered

/-- The peer is on this machine. It offers two ports, and it rejects a disconnect once before it
agrees; what it would say to a third request is not read. -/
theorem bounded_readings_are_sound_offered :
    let endpoint : Endpoint := ⟨"localhost", 4001, 5001⟩
    let session : Session := ⟨endpoint, 4002, 4003⟩
    let reply := Text.bytesOf (Reply.announcement 4002 4003)
    let rejection := Text.bytesOf "Rejected"
    let agreement := Text.bytesOf "Accepted"
    let peer : Peer :=
      { answersTo := 5001, handshakePort := 4001, statePort := 4002, heartbeatPort := 4003,
        timeoutPort := 4004, starts := [reply], farewells := [rejection, agreement, rejection] }
    let finished := (Tcp.handshake endpoint []).run.run answer (idle none peer)
    let parted := (Tcp.disconnect {} session).run answer (idle none peer)
    Facing endpoint peer ∧ Reachable "localhost" 5001 4001 none peer ∧
      Reached 64 [reply] finished.trace ∧ finished.value = .ok ⟨endpoint, 4002, 4003⟩ ∧
        Reached 32 [rejection, agreement] parted.trace ∧ parted.value = .ok () := by
  intro endpoint session reply rejection agreement peer finished parted
  have facing : Facing endpoint peer := ⟨rfl, rfl, by decide⟩
  have lives : ∃ addresses, resolve "localhost" = .ok addresses ∧ liveHost ∈ addresses :=
    ⟨[liveHost], rfl, List.mem_singleton_self liveHost⟩
  have reachable : Reachable "localhost" 5001 4001 none peer := ⟨lives, by decide, by decide⟩
  have leaving : Reachable "localhost" 5001 4002 none peer := ⟨lives, by decide, by decide⟩
  have suffice : Suffice peer.farewells (RetryPolicy.limit {}) := .inl ⟨agreement, by decide, by decide⟩
  have heard : (untilSettled peer.farewells).take (RetryPolicy.limit {}) = [rejection, agreement] := by
    decide
  obtain ⟨_, _, settles, _, offered, reaches, asks⟩ := bounded_readings_are_sound
  have reached := reaches endpoint [] peer none reply _ facing reachable rfl
  have opened := (offered Network answer (idle none peer) endpoint [] 4002 4003 reached).1
  have left := (asks session peer none facing rfl leaving).2 {} suffice
  rw [heard] at left
  have agreed := (settles {} session).bounded answer (idle none peer) _ left
  exact ⟨facing, reachable, reached, opened, left, agreed.trans (by decide +kernel)⟩

end StandIn.Simulation
