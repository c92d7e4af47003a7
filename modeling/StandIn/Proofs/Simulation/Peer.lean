import StandIn.Proofs.Program.Levels
import StandIn.Proofs.Tcp.Outcome
import StandIn.Simulation.Network

/-!
What the scripted peer makes of an exchange. Between exchanges the network is idle: nobody listens
and nothing waits to be read, so all that one exchange leaves to the next is what the peer has
received and which answers it still has.
-/

set_option autoImplicit false

namespace StandIn.Simulation

open Program (Answered answered_nil answered_cons answered_append)
open Tcp (told Connecting Delivering Contacting Exchanging)

/-- All that changes about a peer: the answers that it still has, and what it has received. For each
Hello and each request it gives one answer, the next one. -/
structure Ledger where
  starts : List (List UInt8)
  farewells : List (List UInt8)
  hellos : List String := []
  requests : List String := []
  heartbeats : List String := []

namespace Ledger

def greeted (ledger : Ledger) (hello : String) : Ledger :=
  { ledger with starts := ledger.starts.tail, hellos := ledger.hellos ++ [hello] }

def asked (ledger : Ledger) (request : String) : Ledger :=
  { ledger with farewells := ledger.farewells.tail, requests := ledger.requests ++ [request] }

def felt (ledger : Ledger) : Ledger :=
  { ledger with heartbeats := ledger.heartbeats ++ [""] }

end Ledger

def Peer.holding (peer : Peer) (ledger : Ledger) : Peer :=
  { peer with
    starts := ledger.starts
    farewells := ledger.farewells
    hellos := ledger.hellos
    requests := ledger.requests
    heartbeats := ledger.heartbeats }

namespace Network

def idle (taken : Option Port) (peer : Peer) : Network :=
  { peer := some peer, taken := taken }

def awaiting (taken : Option Port) (peer : Peer) (port : Port) : Network :=
  { peer := some peer, taken := taken, listening := some port }

variable {network after : Network} {trace : Socket.Trace}

/-! ## Connecting -/

/-- Whoever takes connections to the port, if they do not run out of time. -/
structure Takes (network : Network) (port : Port) (party : Party) : Prop where
  reached : network.peer.any (·.timeoutPort = port) = false
  found : (if network.listening = some port then some .controller
    else network.peer.bind (Peer.party? · port)) = some party

/-- A connection fails and changes nothing, or somebody takes it. -/
theorem connect_cases (network : Network) (address : Address) (port : Port) (limit : Option Nat) :
    (∃ fault, network.connect address port limit = (.error fault, network)) ∨
      ∃ party, Takes network port party ∧ network.connect address port limit =
        (.ok (), { network with outgoing := some (party, "") }) := by
  unfold connect
  split
  · exact .inl ⟨_, rfl⟩
  · split
    · exact .inl ⟨_, rfl⟩
    · next reached =>
      cases found : (if network.listening = some port then some Party.controller
          else network.peer.bind (Peer.party? · port)) with
      | none => exact .inl ⟨_, rfl⟩
      | some party => exact .inr ⟨party, ⟨Bool.eq_false_iff.mpr reached, found⟩, rfl⟩

theorem connecting_answered {port : Port} {limit : Option Nat} {fault : IoFault}
    {addresses : List Address} {result : Except IoFault Unit}
    (connecting : Connecting port limit fault addresses trace result)
    (answered : Answered answer network trace after) :
    (after = network ∧ ∃ fault, result = .error fault) ∨
      ∃ party, Takes network port party ∧
        after = { network with outgoing := some (party, "") } ∧ result = .ok () := by
  induction connecting with
  | exhausted fault => exact .inl ⟨answered_nil answered, fault, rfl⟩
  | connected fault address others =>
      obtain ⟨reply, rest⟩ := answered_cons answered
      rcases connect_cases network address port limit with ⟨failed, same⟩ | ⟨party, takes, same⟩
      · rw [answer, same] at reply
        cases reply
      · rw [answer, same] at rest
        exact .inr ⟨party, takes, answered_nil rest, rfl⟩
  | failed fault address next _ induction =>
      obtain ⟨reply, rest⟩ := answered_cons answered
      rcases connect_cases network address port limit with ⟨failed, same⟩ | ⟨party, takes, same⟩
      · rw [answer, same] at rest
        exact induction rest
      · rw [answer, same] at reply
        cases reply

theorem told_answered {lines : List Narration}
    (answered : Answered answer network (told lines) after) : after = network := by
  induction lines with
  | nil => exact answered_nil answered
  | cons line rest induction => exact induction (answered_cons answered).2

theorem told_first {lines : List Narration}
    (answered : Answered answer network (told lines ++ trace) after) :
    Answered answer network trace after := by
  obtain ⟨middle, telling, rest⟩ := answered_append answered
  cases told_answered telling
  exact rest

theorem delivering_answered {host : String} {port : Port} {message : String}
    {result : Except Fault Unit} (delivering : Delivering host port message trace result)
    (answered : Answered answer network trace after) :
    (after = network ∧ ∃ fault, result = .error (.io fault)) ∨
      ∃ party, Takes network port party ∧
        after = { network with outgoing := some (party, message) }.conclude ∧ result = .ok () := by
  cases delivering with
  | unresolved fault => exact .inl ⟨answered_nil (answered_cons answered).2, fault, rfl⟩
  | unconnected addresses fault connecting =>
      have tried := (answered_cons answered).2
      rcases connecting_answered connecting tried with ⟨same, _⟩ | ⟨_, _, _, failed⟩
      · exact .inl ⟨same, fault, rfl⟩
      · cases failed
  | unsent addresses fault connecting =>
      obtain ⟨middle, _, sending⟩ := answered_append (answered_cons answered).2
      cases (answered_cons sending).1
  | delivered addresses connecting =>
      obtain ⟨middle, tried, sending⟩ := answered_append (answered_cons answered).2
      rcases connecting_answered connecting tried with ⟨_, _, failed⟩ | ⟨party, takes, rfl, _⟩
      · cases failed
      · have ended := answered_nil (answered_cons (answered_cons sending).2).2
        exact .inr ⟨party, takes, ended, rfl⟩

/-! ## Messages to the peer -/

/-- The peer has received a message on one of the two ports where it answers, and this is what it
answers. -/
inductive Served (peer : Peer) (port : Port) (message : String) (reply : List UInt8) :
    Ledger → Ledger → Prop where
  | hello {before : Ledger} {more : List (List UInt8)} (there : port = peer.handshakePort)
      (given : before.starts = reply :: more) :
      Served peer port message reply before (before.greeted message)
  | request {before : Ledger} {more : List (List UInt8)} (elsewhere : port ≠ peer.handshakePort)
      (there : port = peer.statePort) (given : before.farewells = reply :: more) :
      Served peer port message reply before (before.asked message)

variable {peer : Peer} {taken : Option Port} {listenPort port : Port} {message : String}
  {ledger : Ledger}

/-- Where the peer answers it takes a message only as long as it has an answer. -/
theorem party_cases {party : Party} (found : (peer.holding ledger).party? port = some party) :
    (port = peer.handshakePort ∧ party = .hello ∧ ∃ reply more, ledger.starts = reply :: more) ∨
      (port ≠ peer.handshakePort ∧ port = peer.statePort ∧ party = .request ∧
        ∃ reply more, ledger.farewells = reply :: more) ∨
      port = peer.heartbeatPort ∧ party = .heartbeat := by
  unfold Peer.party? at found
  split at found
  · next there =>
    cases given : ledger.starts with
    | nil => simp [Peer.holding, given] at found
    | cons reply more =>
        refine .inl ⟨there, ?_, reply, more, rfl⟩
        simpa [Peer.holding, given, eq_comm] using found
  · next elsewhere =>
    split at found
    · next there =>
      cases given : ledger.farewells with
      | nil => simp [Peer.holding, given] at found
      | cons reply more =>
          refine .inr (.inl ⟨elsewhere, there, ?_, reply, more, rfl⟩)
          simpa [Peer.holding, given, eq_comm] using found
    · split at found
      · next there =>
        cases found
        exact .inr (.inr ⟨there, rfl⟩)
      · cases found

theorem takes_party {party : Party} (away : port ≠ listenPort)
    (takes : Takes (awaiting taken (peer.holding ledger) listenPort) port party) :
    (peer.holding ledger).party? port = some party := by
  have notListening : ¬ some listenPort = some port := fun same => away (Option.some.inj same).symm
  exact (if_neg notListening).symm.trans takes.found

/-- Whoever has taken the message is the peer, and its answer is there to be accepted. -/
theorem conclude_served {party : Party} (answers : peer.answersTo = listenPort)
    (away : port ≠ listenPort) (unlike : port ≠ peer.heartbeatPort)
    (takes : Takes (awaiting taken (peer.holding ledger) listenPort) port party) :
    ∃ reply changed, Served peer port message reply ledger changed ∧
      { awaiting taken (peer.holding ledger) listenPort with
        outgoing := some (party, message) }.conclude =
      { awaiting taken (peer.holding changed) listenPort with waiting := [reply] } := by
  rcases party_cases (takes_party away takes) with
    ⟨there, rfl, reply, more, given⟩ | ⟨elsewhere, there, rfl, reply, more, given⟩ | ⟨there, _⟩
  · refine ⟨reply, ledger.greeted message, .hello there given, ?_⟩
    simp [conclude, awaiting, arrive, Peer.holding, Ledger.greeted, answers, given]
  · refine ⟨reply, ledger.asked message, .request elsewhere there given, ?_⟩
    simp [conclude, awaiting, arrive, Peer.holding, Ledger.asked, answers, given]
  · exact absurd there unlike

theorem delivered_served {host : String} (answers : peer.answersTo = listenPort)
    (away : port ≠ listenPort) (unlike : port ≠ peer.heartbeatPort)
    (delivering : Delivering host port message trace (.ok ()))
    (answered : Answered answer (awaiting taken (peer.holding ledger) listenPort) trace after) :
    ∃ reply changed, Served peer port message reply ledger changed ∧
      after = { awaiting taken (peer.holding changed) listenPort with waiting := [reply] } := by
  rcases delivering_answered delivering answered with ⟨_, _, failed⟩ | ⟨party, takes, rfl, _⟩
  · cases failed
  · exact conclude_served answers away unlike takes

/-- Whatever is told before and after it, a message that went out leaves its answer to be accepted. -/
theorem delivered_accepting {host : String} {early late : List Narration} {accepting : Socket.Trace}
    (answers : peer.answersTo = listenPort) (away : port ≠ listenPort)
    (unlike : port ≠ peer.heartbeatPort) (delivering : Delivering host port message trace (.ok ()))
    (answered : Answered answer (awaiting taken (peer.holding ledger) listenPort)
      (told early ++ (trace ++ (told late ++ accepting))) after) :
    ∃ reply changed, Served peer port message reply ledger changed ∧
      Answered answer { awaiting taken (peer.holding changed) listenPort with waiting := [reply] }
        accepting after := by
  obtain ⟨middle, sent, rest⟩ := answered_append (told_first answered)
  obtain ⟨reply, changed, served, rfl⟩ := delivered_served answers away unlike delivering sent
  exact ⟨reply, changed, served, told_first rest⟩

theorem contacting_answered {host : String} {early late : List Narration}
    {result : Except Fault Unit} (answers : peer.answersTo = listenPort)
    (away : port ≠ listenPort) (unlike : port ≠ peer.heartbeatPort)
    (contacting : Contacting host port message early late trace result)
    (answered : Answered answer (awaiting taken (peer.holding ledger) listenPort) trace after) :
    (after = awaiting taken (peer.holding ledger) listenPort ∧
        ∃ fault, result = .error (.io fault)) ∨
      ∃ reply changed, Served peer port message reply ledger changed ∧
        after = { awaiting taken (peer.holding changed) listenPort with accepted := reply } ∧
          result = .ok () := by
  cases contacting with
  | undelivered delivering =>
      rcases delivering_answered delivering (told_first answered) with
        ⟨same, fault, failed⟩ | ⟨_, _, _, failed⟩
      · exact .inl ⟨same, fault, failed⟩
      · cases failed
  | unaccepted delivering fault =>
      obtain ⟨reply, changed, _, accepting⟩ :=
        delivered_accepting answers away unlike delivering answered
      -- The answer is there, so it cannot fail to be accepted.
      cases (answered_cons accepting).1
  | accepted delivering =>
      obtain ⟨reply, changed, served, accepting⟩ :=
        delivered_accepting answers away unlike delivering answered
      exact .inr ⟨reply, changed, served, answered_nil (answered_cons accepting).2, rfl⟩

theorem listen_cases (peer : Peer) (taken : Option Port) (port : Port) :
    (∃ fault, (idle taken peer).listen port = (.error fault, idle taken peer)) ∨
      (idle taken peer).listen port = (.ok (), awaiting taken peer port) := by
  unfold listen
  dsimp only
  split
  · exact .inl ⟨_, rfl⟩
  · exact .inr rfl

theorem listened {peer : Peer}
    (answered : Answered answer (idle taken peer) (⟨.listen listenPort, .ok ()⟩ :: trace) after) :
    Answered answer (awaiting taken peer listenPort) trace after := by
  obtain ⟨reply, rest⟩ := answered_cons answered
  rcases listen_cases peer taken listenPort with ⟨_, same⟩ | same
  · rw [answer, same] at reply
    cases reply
  · rw [answer, same] at rest
    exact rest

/-- An exchange fails below messages and leaves nothing behind, or the peer has served it and the
reply is what there was room for of its answer. -/
theorem exchanging_answered {host what : String} {capacity : Nat} {early late : List Narration}
    {result : Except Fault String} (answers : peer.answersTo = listenPort)
    (away : port ≠ listenPort) (unlike : port ≠ peer.heartbeatPort)
    (exchanging :
      Exchanging listenPort host port message early late capacity what trace result)
    (answered : Answered answer (idle taken (peer.holding ledger)) trace after) :
    (after = idle taken (peer.holding ledger) ∧ ∃ fault, result = .error (.io fault)) ∨
      ∃ reply changed, Served peer port message reply ledger changed ∧
        after = idle taken (peer.holding changed) ∧
          result = .ok (Text.decodeLossy (reply.take capacity)) := by
  cases exchanging with
  | busy fault =>
      obtain ⟨reply, rest⟩ := answered_cons answered
      rcases listen_cases (peer.holding ledger) taken listenPort with ⟨_, same⟩ | same
      · rw [answer, same] at rest
        exact .inl ⟨answered_nil rest, fault, rfl⟩
      · rw [answer, same] at reply
        cases reply
  | missed contacting =>
      obtain ⟨middle, met, releasing⟩ := answered_append (listened answered)
      rcases contacting_answered answers away unlike contacting met with
        ⟨rfl, fault, failed⟩ | ⟨_, _, _, _, failed⟩
      · cases failed
        exact .inl ⟨answered_nil (answered_cons releasing).2, fault, rfl⟩
      · cases failed
  | unread contacting fault =>
      obtain ⟨middle, _, releasing⟩ := answered_append (listened answered)
      cases (answered_cons (answered_cons releasing).2).1
  | read contacting bytes =>
      obtain ⟨middle, met, releasing⟩ := answered_append (listened answered)
      obtain ⟨received, rest⟩ := answered_cons (answered_cons releasing).2
      rcases contacting_answered answers away unlike contacting met with
        ⟨_, _, failed⟩ | ⟨reply, changed, served, rfl, _⟩
      · cases failed
      · cases received
        exact .inr ⟨reply, changed, served, told_answered rest, rfl⟩

end Network
end StandIn.Simulation
