import StandIn.Proofs.Simulation.Peer

/-!
What each call of a controller leaves behind at the scripted peer, if their ports do not get in the
way of each other.
-/

set_option autoImplicit false

namespace StandIn.Simulation

open Network (idle Takes party_cases exchanging_answered connecting_answered delivering_answered
  told_answered told_first)
open Program (Answered answered_nil answered_cons answered_append)
open Tcp (Connecting Handshaking Asking Negotiating Pulsing)

/-- The endpoint of a controller leads to the peer and back, and no port stands for two things. -/
structure Facing (endpoint : Endpoint) (peer : Peer) : Prop where
  there : endpoint.peerPort = peer.handshakePort
  back : peer.answersTo = endpoint.listenPort
  distinct :
    [peer.handshakePort, peer.statePort, peer.heartbeatPort, endpoint.listenPort].Nodup

theorem Facing.apart {endpoint : Endpoint} {peer : Peer} (facing : Facing endpoint peer) :
    (peer.handshakePort ≠ peer.statePort ∧ peer.handshakePort ≠ peer.heartbeatPort ∧
        peer.handshakePort ≠ endpoint.listenPort) ∧
      (peer.statePort ≠ peer.heartbeatPort ∧ peer.statePort ≠ endpoint.listenPort) ∧
        peer.heartbeatPort ≠ endpoint.listenPort := by
  simpa using facing.distinct

/-- What a heartbeat may be sent to: the port of the peer that is for them, one where nobody
listens, or one where connections run out of time. -/
inductive Beatable (peer : Peer) (port : Port) : Prop where
  | own (same : port = peer.heartbeatPort)
  | refused (nobody : port ∉ [peer.handshakePort, peer.statePort, peer.heartbeatPort])
  | late (same : port = peer.timeoutPort)

/-- What the controller makes of an answer to a Hello. -/
def offer (endpoint : Endpoint) (answer : List UInt8) : Except Fault Session :=
  Tcp.openSession endpoint
    (Reply.ofText (Text.decodeLossy (answer.take Tcp.startCapacity)))

def farewell (answer : List UInt8) : Reply :=
  Reply.ofText (Text.decodeLossy (answer.take Tcp.disconnectCapacity))

variable {endpoint : Endpoint} {peer : Peer} {taken : Option Port} {ledger : Ledger}
  {trace : Socket.Trace} {after : Network}

/-! ## Handshakes -/

theorem handshaking_answered {devices : List Device} {result : Except Fault Session}
    (facing : Facing endpoint peer) (handshaking : Handshaking endpoint devices trace result)
    (answered : Answered Network.answer (idle taken (peer.holding ledger)) trace after) :
    (after = idle taken (peer.holding ledger) ∧ ∃ fault, result = .error (.io fault)) ∨
      ∃ answer more, ledger.starts = answer :: more ∧ result = offer endpoint answer ∧
        after = idle taken
          (peer.holding (ledger.greeted (Hello.text ⟨endpoint.listenPort, devices⟩))) := by
  obtain ⟨⟨_, unlike, away⟩, _, _⟩ := facing.apart
  rw [← facing.there] at unlike away
  cases handshaking with
  | failed greeting =>
      rcases exchanging_answered facing.back away unlike greeting answered with
        ⟨same, fault, failed⟩ | ⟨_, _, _, _, failed⟩
      · cases failed
        exact .inl ⟨same, fault, rfl⟩
      · cases failed
  | answered greeting =>
      obtain ⟨middle, greeted, telling⟩ := answered_append answered
      cases told_answered telling
      rcases exchanging_answered facing.back away unlike greeting greeted with
        ⟨_, _, failed⟩ | ⟨answer, changed, served, rfl, same⟩
      · cases failed
      · cases same
        cases served with
        | hello there given => exact .inr ⟨answer, _, given, rfl, rfl⟩
        | request elsewhere => exact absurd facing.there elsewhere

/-! ## Heartbeats -/

/-- Of the ports that a heartbeat may be sent to, a connection opens on the one that is for them. -/
theorem takes_heartbeat {port : Port} {party : Party} (facing : Facing endpoint peer)
    (beatable : Beatable peer port) (takes : Takes (idle taken (peer.holding ledger)) port party) :
    party = .heartbeat := by
  obtain ⟨⟨_, notGreeting, _⟩, ⟨notAsking, _⟩, _⟩ := facing.apart
  have found : (peer.holding ledger).party? port = some party := takes.found
  have inTime : peer.timeoutPort ≠ port := by
    simpa [idle, Peer.holding] using takes.reached
  have elsewhere : port ≠ peer.handshakePort ∧ port ≠ peer.statePort := by
    cases beatable with
    | own same =>
        rw [same]
        exact ⟨notGreeting.symm, notAsking.symm⟩
    | refused nobody =>
        simp only [List.mem_cons, not_or] at nobody
        exact ⟨nobody.1, nobody.2.1⟩
    | late same => exact absurd same.symm inTime
  rcases party_cases found with ⟨there, _⟩ | ⟨_, there, _⟩ | ⟨_, heartbeat⟩
  · exact absurd there elsewhere.1
  · exact absurd there elsewhere.2
  · exact heartbeat

theorem pulsing_answered {timing : HeartbeatTiming} {session : Session}
    {result : Except Fault Unit} (facing : Facing endpoint peer)
    (beatable : Beatable peer session.heartbeatPort) (pulsing : Pulsing timing session trace result)
    (answered : Answered Network.answer (idle taken (peer.holding ledger)) trace after) :
    (after = idle taken (peer.holding ledger) ∧ ∃ fault, result = .error fault) ∨
      after = idle taken (peer.holding ledger.felt) ∧ result = .ok () := by
  cases pulsing with
  | unresolved fault =>
      exact .inl ⟨answered_nil (answered_cons (told_first answered)).2, _, rfl⟩
  | nowhere =>
      exact .inl ⟨answered_nil (answered_cons (told_first answered)).2, _, rfl⟩
  | missed known connecting =>
      rcases connecting_answered connecting (answered_cons (told_first answered)).2 with
        ⟨same, _⟩ | ⟨_, _, _, failed⟩
      · exact .inl ⟨same, _, rfl⟩
      · cases failed
  | felt connecting =>
      obtain ⟨there, tried, holding⟩ := answered_append (answered_cons (told_first answered)).2
      rcases connecting_answered connecting tried with ⟨_, _, failed⟩ | ⟨party, takes, rfl, _⟩
      · cases failed
      · cases takes_heartbeat facing beatable takes
        have ended := answered_nil (answered_cons (answered_cons (answered_cons holding).2).2).2
        exact .inr ⟨ended, rfl⟩

/-! ## Disconnects -/

theorem pausing_answered {policy : RetryPolicy} {network : Network}
    (answered : Answered Network.answer network (Tcp.pausing policy) after) : after = network := by
  unfold Tcp.pausing at answered
  split at answered
  · exact answered_nil answered
  · exact answered_nil (answered_cons answered).2

theorem asking_answered {session : Session} {number : UInt32} {result : Except Fault Reply}
    (facing : Facing endpoint peer) (settled : session.endpoint = endpoint)
    (suited : session.statePort = peer.statePort) (asking : Asking session number trace result)
    (answered : Answered Network.answer (idle taken (peer.holding ledger)) trace after) :
    (after = idle taken (peer.holding ledger) ∧ ∃ fault, result = .error (.io fault)) ∨
      ∃ answer more, ledger.farewells = answer :: more ∧ result = .ok (farewell answer) ∧
        after = idle taken (peer.holding (ledger.asked Tcp.disconnectRequest)) := by
  subst settled
  obtain ⟨⟨elsewhere, _, _⟩, ⟨unlike, away⟩, _⟩ := facing.apart
  rw [← suited] at unlike away elsewhere
  cases asking with
  | failed requesting =>
      rcases exchanging_answered facing.back away unlike requesting answered with
        ⟨same, fault, failed⟩ | ⟨_, _, _, _, failed⟩
      · cases failed
        exact .inl ⟨same, fault, rfl⟩
      · cases failed
  | answered requesting =>
      rcases exchanging_answered facing.back away unlike requesting answered with
        ⟨_, _, failed⟩ | ⟨answer, changed, served, same, text⟩
      · cases failed
      · cases text
        cases served with
        | hello there => exact absurd there.symm elsewhere
        | request _ there given => exact .inr ⟨answer, _, given, rfl, same⟩

theorem asking_reply {session : Session} {number : UInt32} {reply : Reply}
    (facing : Facing endpoint peer) (settled : session.endpoint = endpoint)
    (suited : session.statePort = peer.statePort) (asking : Asking session number trace (.ok reply))
    (answered : Answered Network.answer (idle taken (peer.holding ledger)) trace after) :
    ∃ answer more, ledger.farewells = answer :: more ∧ farewell answer = reply ∧
      after = idle taken (peer.holding (ledger.asked Tcp.disconnectRequest)) := by
  rcases asking_answered facing settled suited asking answered with
    ⟨_, _, failed⟩ | ⟨answer, more, given, same, ended⟩
  · cases failed
  · exact ⟨answer, more, given, (Except.ok.inj same).symm, ended⟩

def isRejection (answer : List UInt8) : Bool :=
  farewell answer = .rejected

/-- Whether the last answer of a negotiation was understood as the end of it: the peer has agreed, or
has said something that makes no sense. -/
def settles {Value : Type} : Except Fault Value → Bool
  | .ok _ => true
  | .error (.protocol _) => true
  | .error _ => false

/-- What a negotiation that was given these answers leaves behind: a request for each of them, and
each was a rejection but for one that settles it. -/
structure Parted {Value : Type} (answers : List (List UInt8)) (result : Except Fault Value)
    (before after : Ledger) : Prop where
  given : before.farewells = answers ++ after.farewells
  requests : after.requests =
    before.requests ++ List.replicate answers.length Tcp.disconnectRequest
  others : after = { before with farewells := after.farewells, requests := after.requests }
  counted : answers.length = answers.countP isRejection + (settles result).toNat

theorem parted_once {Value : Type} {answer : List UInt8} {more : List (List UInt8)}
    {result : Except Fault Value} (given : ledger.farewells = answer :: more)
    (counted : isRejection answer = !settles result) :
    Parted [answer] result ledger (ledger.asked Tcp.disconnectRequest) where
  given := by simp [Ledger.asked, given]
  requests := rfl
  others := rfl
  counted := by
    rw [List.countP_singleton, counted]
    cases settles result <;> rfl

/-- After a rejection the rest of the negotiation counts as before. -/
theorem Parted.again {Value : Type} {answer : List UInt8} {answers more : List (List UInt8)}
    {result : Except Fault Value} {changed : Ledger} (given : ledger.farewells = answer :: more)
    (rejected : isRejection answer = true)
    (parted : Parted answers result (ledger.asked Tcp.disconnectRequest) changed) :
    Parted (answer :: answers) result ledger changed where
  given := by
    have later := parted.given
    simp only [Ledger.asked, given, List.tail_cons] at later
    rw [given, later, List.cons_append]
  requests := by
    rw [parted.requests, List.length_cons, List.replicate_succ]
    simp [Ledger.asked]
  others := by
    have same := parted.others
    rw [same]
    rfl
  counted := by
    have later := parted.counted
    rw [List.length_cons, List.countP_cons_of_pos rejected]
    omega

theorem negotiating_answered {policy : RetryPolicy} {session : Session} {left : Nat}
    {number : UInt32} {result : Except Fault UInt32} (facing : Facing endpoint peer)
    (settled : session.endpoint = endpoint) (suited : session.statePort = peer.statePort)
    (negotiating : Negotiating policy session left number trace result)
    (answered : Answered Network.answer (idle taken (peer.holding ledger)) trace after) :
    ∃ answers changed, Parted answers result ledger changed ∧
      after = idle taken (peer.holding changed) := by
  -- Every attempt is answered from what the one before it has left of the ledger.
  induction negotiating generalizing ledger with
  | failed left asking =>
      rcases asking_answered facing settled suited asking answered with
        ⟨same, fault, failed⟩ | ⟨_, _, _, failed, _⟩
      · cases failed
        exact ⟨[], ledger, ⟨rfl, (List.append_nil _).symm, rfl, rfl⟩, same⟩
      · cases failed
  | accepted left asking =>
      obtain ⟨middle, asked, telling⟩ := answered_append answered
      cases told_answered telling
      obtain ⟨answer, more, given, agreed, same⟩ :=
        asking_reply facing settled suited asking asked
      refine ⟨[answer], _, parted_once given ?_, same⟩
      simp [isRejection, agreed, settles]
  | senseless left reason asking agreed refused =>
      obtain ⟨answer, more, given, senseless, same⟩ :=
        asking_reply facing settled suited asking answered
      refine ⟨[answer], _, parted_once given ?_, same⟩
      simp [isRejection, senseless, refused, settles, Negotiation.responseFault]
  | refused left asking exhausted =>
      obtain ⟨middle, asked, telling⟩ := answered_append answered
      cases told_answered telling
      obtain ⟨answer, more, given, rejected, same⟩ :=
        asking_reply facing settled suited asking asked
      refine ⟨[answer], _, parted_once given ?_, same⟩
      simp [isRejection, rejected, settles]
  | overflowed asking allowed =>
      obtain ⟨middle, asked, others⟩ := answered_append answered
      cases pausing_answered (told_first others)
      obtain ⟨answer, more, given, rejected, same⟩ :=
        asking_reply facing settled suited asking asked
      refine ⟨[answer], _, parted_once given ?_, same⟩
      simp [isRejection, rejected, settles]
  | again asking allowed _ induction =>
      obtain ⟨middle, asked, others⟩ := answered_append answered
      obtain ⟨last, waiting, anew⟩ := answered_append (told_first others)
      cases pausing_answered waiting
      obtain ⟨answer, more, given, understood, rfl⟩ :=
        asking_reply facing settled suited asking asked
      obtain ⟨answers, changed, parted, same⟩ := induction anew
      have rejected : isRejection answer = true := by simp [isRejection, understood]
      exact ⟨answer :: answers, changed, parted.again given rejected, same⟩

end StandIn.Simulation
