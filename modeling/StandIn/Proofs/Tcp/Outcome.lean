import StandIn.Proofs.Program.Yields
import StandIn.Tcp.Wire

/-!
What can come of each exchange over sockets, for every way in which the network may answer. As for
the actions of a controller, each exchange has a relation with one constructor for each way through
it, and a theorem that every outcome of the exchange is one of these.
-/

set_option autoImplicit false

namespace StandIn

/-- What was done with sockets, the oldest step first. -/
abbrev Socket.Trace := List (Exchange Socket.Answer)

namespace Tcp

open Socket (Trace)

variable {Value Result : Type}

def told (lines : List Narration) : Trace := lines.map fun line => ⟨.narrate line, ()⟩

/-- The passage can end with this result, leaving these steps behind. -/
def Passes (passage : Passage Value) (trace : Trace) (result : Except Fault Value) : Prop :=
  passage.run.Yields trace result

/-- A sequence of two passages ends with the fault of the first, or as the second does. -/
theorem passes_bind {passage : Passage Value} {next : Value → Passage Result} {trace : Trace}
    {result : Except Fault Result} (passes : Passes (passage >>= next) trace result) :
    (∃ fault, result = .error fault ∧ Passes passage trace (.error fault)) ∨
      ∃ value first rest, Passes passage first (.ok value) ∧ Passes (next value) rest result ∧
        trace = first ++ rest := by
  unfold Passes at passes
  rw [ExceptT.run_bind] at passes
  obtain ⟨first, value, rest, early, late, rfl⟩ := Program.yields_bind passes
  cases value with
  | error fault =>
      obtain ⟨rfl, rfl⟩ := Program.yields_done late
      rw [List.append_nil]
      exact .inl ⟨fault, rfl, early⟩
  | ok value => exact .inr ⟨value, first, rest, early, late, rfl⟩

theorem passes_step_bind {request : Socket} {next : request.Answer → Passage Result} {trace : Trace}
    {result : Except Fault Result} (passes : Passes (step request >>= next) trace result) :
    ∃ answer rest, trace = ⟨request, answer⟩ :: rest ∧ Passes (next answer) rest result :=
  Program.yields_ask passes

theorem passes_narrate_bind {line : Narration} {next : Unit → Passage Result} {trace : Trace}
    {result : Except Fault Result} (passes : Passes (narrate line >>= next) trace result) :
    ∃ rest, trace = ⟨.narrate line, ()⟩ :: rest ∧ Passes (next ()) rest result := by
  obtain ⟨_, rest, split, later⟩ := Program.yields_ask passes
  exact ⟨rest, split, later⟩

theorem run_lift_bind (traffic : Traffic Value) (next : Value → Passage Result) :
    (ExceptT.lift traffic >>= next).run = traffic.bind fun value => (next value).run :=
  Program.bind_bind traffic _ _

theorem passes_lift_bind {traffic : Traffic Value} {next : Value → Passage Result} {trace : Trace}
    {result : Except Fault Result} (passes : Passes (ExceptT.lift traffic >>= next) trace result) :
    ∃ value first rest, traffic.Yields first value ∧ Passes (next value) rest result ∧
      trace = first ++ rest := by
  unfold Passes at passes
  rw [run_lift_bind] at passes
  obtain ⟨first, value, rest, early, late, split⟩ := Program.yields_bind passes
  exact ⟨value, first, rest, early, late, split⟩

theorem passes_fault_bind {fault : IoFault} {next : Value → Passage Result} {trace : Trace}
    {result : Except Fault Result}
    (passes : Passes (orFault (.error fault) >>= next) trace result) :
    trace = [] ∧ result = .error (.io fault) :=
  Program.yields_done passes

theorem passes_then_release {passage : Passage Value} {trace : Trace} {result : Except Fault Value}
    (passes : Passes (thenRelease passage) trace result) :
    ∃ inner, Passes passage inner result ∧ trace = inner ++ [⟨.release, ()⟩] := by
  obtain ⟨inner, ended, rest, early, late, rfl⟩ := Program.yields_bind passes
  obtain ⟨_, others, rfl, done⟩ := Program.yields_ask late
  obtain ⟨rfl, rfl⟩ := Program.yields_done done
  exact ⟨inner, early, rfl⟩

/-! ## Connecting and delivering -/

inductive Connecting (port : Port) (limit : Option Nat) :
    IoFault → List Address → Trace → Except IoFault Unit → Prop where
  | exhausted (fault : IoFault) : Connecting port limit fault [] [] (.error fault)
  | connected (fault : IoFault) (address : Address) (others : List Address) :
      Connecting port limit fault (address :: others) [⟨.connect address port limit, .ok ()⟩] (.ok ())
  | failed (fault : IoFault) (address : Address) {others : List Address} {trace : Trace}
      {result : Except IoFault Unit} (next : IoFault)
      (connecting : Connecting port limit next others trace result) :
      Connecting port limit fault (address :: others)
        (⟨.connect address port limit, .error next⟩ :: trace) result

theorem connecting {port : Port} {limit : Option Nat} {fault : IoFault} {addresses : List Address}
    {trace : Trace} {result : Except IoFault Unit}
    (yields : (connectFirst port limit fault addresses).Yields trace result) :
    Connecting port limit fault addresses trace result := by
  induction addresses generalizing fault trace with
  | nil =>
      obtain ⟨rfl, rfl⟩ := Program.yields_done yields
      exact .exhausted fault
  | cons address others induction =>
      obtain ⟨answer, rest, rfl, ended⟩ := Program.yields_ask yields
      cases answer with
      | ok =>
          obtain ⟨rfl, rfl⟩ := Program.yields_done ended
          exact .connected fault address others
      | error next => exact .failed fault address next (induction ended)

inductive Delivering (host : String) (port : Port) (message : String) :
    Trace → Except Fault Unit → Prop where
  | unresolved (fault : IoFault) :
      Delivering host port message [⟨.resolve host, .error fault⟩] (.error (.io fault))
  | unconnected (addresses : List Address) {trace : Trace} (fault : IoFault)
      (connecting : Connecting port none .noAddresses addresses trace (.error fault)) :
      Delivering host port message (⟨.resolve host, .ok addresses⟩ :: trace) (.error (.io fault))
  | unsent (addresses : List Address) {trace : Trace} (fault : IoFault)
      (connecting : Connecting port none .noAddresses addresses trace (.ok ())) :
      Delivering host port message
        (⟨.resolve host, .ok addresses⟩ ::
          (trace ++ [⟨.send message, .error fault⟩, ⟨.hangUp, ()⟩])) (.error (.io fault))
  | delivered (addresses : List Address) {trace : Trace}
      (connecting : Connecting port none .noAddresses addresses trace (.ok ())) :
      Delivering host port message
        (⟨.resolve host, .ok addresses⟩ ::
          (trace ++ [⟨.send message, .ok ()⟩, ⟨.hangUp, ()⟩])) (.ok ())

theorem delivering {host : String} {port : Port} {message : String} {trace : Trace}
    {result : Except Fault Unit} (passes : Passes (deliver host port message) trace result) :
    Delivering host port message trace result := by
  obtain ⟨resolved, rest, rfl, found⟩ := passes_step_bind passes
  cases resolved with
  | error fault =>
      obtain ⟨rfl, rfl⟩ := passes_fault_bind found
      exact .unresolved fault
  | ok addresses =>
      obtain ⟨connected, first, others, tried, opened, rfl⟩ := passes_lift_bind found
      cases connected with
      | error fault =>
          obtain ⟨rfl, rfl⟩ := passes_fault_bind opened
          rw [List.append_nil]
          exact .unconnected addresses fault (connecting tried)
      | ok =>
          obtain ⟨sent, later, rfl, written⟩ := passes_step_bind opened
          obtain ⟨_, last, rfl, ended⟩ := passes_step_bind written
          cases sent with
          | error fault =>
              obtain ⟨rfl, rfl⟩ := Program.yields_done ended
              exact .unsent addresses fault (connecting tried)
          | ok =>
              obtain ⟨rfl, rfl⟩ := Program.yields_done ended
              exact .delivered addresses (connecting tried)

/-! ## A message and its answer -/

/-- What happens while the listen port is taken: the message goes out, and the answer is accepted.
The lines are those told before the message and between the message and the answer. -/
inductive Contacting (host : String) (port : Port) (message : String)
    (before after : List Narration) : Trace → Except Fault Unit → Prop where
  | undelivered {trace : Trace} {fault : Fault}
      (delivering : Delivering host port message trace (.error fault)) :
      Contacting host port message before after (told before ++ trace) (.error fault)
  | unaccepted {trace : Trace} (delivering : Delivering host port message trace (.ok ()))
      (fault : IoFault) :
      Contacting host port message before after
        (told before ++ (trace ++ (told after ++ [⟨.accept, .error fault⟩]))) (.error (.io fault))
  | accepted {trace : Trace} (delivering : Delivering host port message trace (.ok ())) :
      Contacting host port message before after
        (told before ++ (trace ++ (told after ++ [⟨.accept, .ok ()⟩]))) (.ok ())

/-- The line that tells of an answer that has filled all the room there was. -/
def truncation (capacity : Nat) (what : String) (bytes : List UInt8) : List Narration :=
  if bytes.length = capacity then [.truncated what capacity] else []

inductive Exchanging (listenPort : Port) (host : String) (port : Port) (message : String)
    (before after : List Narration) (capacity : Nat) (what : String) :
    Trace → Except Fault String → Prop where
  | busy (fault : IoFault) :
      Exchanging listenPort host port message before after capacity what
        [⟨.listen listenPort, .error fault⟩] (.error (.io fault))
  | missed {trace : Trace} {fault : Fault}
      (contacting : Contacting host port message before after trace (.error fault)) :
      Exchanging listenPort host port message before after capacity what
        (⟨.listen listenPort, .ok ()⟩ :: (trace ++ [⟨.release, ()⟩])) (.error fault)
  | unread {trace : Trace} (contacting : Contacting host port message before after trace (.ok ()))
      (fault : IoFault) :
      Exchanging listenPort host port message before after capacity what
        (⟨.listen listenPort, .ok ()⟩ ::
          (trace ++ [⟨.release, ()⟩, ⟨.receive capacity, .error fault⟩])) (.error (.io fault))
  | read {trace : Trace} (contacting : Contacting host port message before after trace (.ok ()))
      (bytes : List UInt8) :
      Exchanging listenPort host port message before after capacity what
        (⟨.listen listenPort, .ok ()⟩ ::
          (trace ++ ⟨.release, ()⟩ :: ⟨.receive capacity, .ok bytes⟩ ::
            told (truncation capacity what bytes))) (.ok (Text.decodeLossy bytes))

theorem reading {capacity : Nat} {what : String} {trace : Trace} {result : Except Fault String}
    (passes : Passes (readReply capacity what) trace result) :
    (∃ fault, trace = [⟨.receive capacity, .error fault⟩] ∧ result = .error (.io fault)) ∨
      ∃ bytes, trace = ⟨.receive capacity, .ok bytes⟩ :: told (truncation capacity what bytes) ∧
        result = .ok (Text.decodeLossy bytes) := by
  obtain ⟨received, others, rfl, kept⟩ := passes_step_bind passes
  cases received with
  | error fault =>
      obtain ⟨rfl, rfl⟩ := passes_fault_bind kept
      exact .inl ⟨fault, rfl, rfl⟩
  | ok bytes =>
      have opened : Passes (if bytes.length = capacity then
          narrate (.truncated what capacity) >>= fun _ => pure (Text.decodeLossy bytes)
        else pure (Text.decodeLossy bytes)) others result := by
        exact kept
      refine .inr ⟨bytes, ?_⟩
      unfold truncation
      split at opened
      · next full =>
        rw [if_pos full]
        obtain ⟨rest, rfl, ended⟩ := passes_narrate_bind opened
        obtain ⟨rfl, rfl⟩ := Program.yields_done ended
        exact ⟨rfl, rfl⟩
      · next room =>
        rw [if_neg room]
        obtain ⟨rfl, rfl⟩ := Program.yields_done opened
        exact ⟨rfl, rfl⟩

variable {listenPort : Port} {host : String} {port : Port} {message : String}
  {before after : List Narration} {capacity : Nat} {what : String}

theorem exchanging {inner : Passage Unit} {next : String → Passage Result} {trace : Trace}
    {result : Except Fault Result}
    (contacting : ∀ trace result, Passes inner trace result →
      Contacting host port message before after trace result)
    (passes : Passes (do
      orFault (← step (.listen listenPort))
      thenRelease inner
      let reply ← readReply capacity what
      next reply) trace result) :
    (∃ fault, result = .error fault ∧
        Exchanging listenPort host port message before after capacity what trace (.error fault)) ∨
      ∃ text first rest,
        Exchanging listenPort host port message before after capacity what first (.ok text) ∧
          Passes (next text) rest result ∧ trace = first ++ rest := by
  obtain ⟨taken, others, rfl, listened⟩ := passes_step_bind passes
  cases taken with
  | error fault =>
      obtain ⟨rfl, rfl⟩ := passes_fault_bind listened
      exact .inl ⟨.io fault, rfl, .busy fault⟩
  | ok =>
      have went : Passes (thenRelease inner >>= fun _ => readReply capacity what >>= next) others
          result := listened
      rcases passes_bind went with ⟨fault, rfl, failed⟩ | ⟨_, first, rest, met, answered, rfl⟩
      · obtain ⟨trace, missed, rfl⟩ := passes_then_release failed
        exact .inl ⟨fault, rfl, .missed (contacting trace _ missed)⟩
      · obtain ⟨trace, made, rfl⟩ := passes_then_release met
        have contact := contacting trace _ made
        rcases passes_bind answered with ⟨fault, rfl, failed⟩ | ⟨text, second, last, read, ended, rfl⟩
        · rcases reading failed with ⟨unread, rfl, same⟩ | ⟨_, _, same⟩
          · cases same
            rw [List.append_assoc]
            exact .inl ⟨.io unread, rfl, .unread contact unread⟩
          · cases same
        · rcases reading read with ⟨_, _, same⟩ | ⟨bytes, rfl, same⟩
          · cases same
          · cases same
            refine .inr ⟨_, _, last, .read contact bytes, ended, ?_⟩
            simp only [List.append_assoc, List.cons_append, List.nil_append]

/-- Delivering and then accepting, with at most some lines told before and between. -/
theorem contacting_delivered {trace others : Trace} {result : Except Fault Unit}
    (delivering : Delivering host port message trace (.ok ()))
    (accepting : Passes (do orFault (← step .accept)) others result) :
    Contacting host port message before after (told before ++ (trace ++ (told after ++ others)))
      result := by
  obtain ⟨accepted, rest, rfl, ended⟩ := passes_step_bind accepting
  cases accepted with
  | error fault =>
      obtain ⟨rfl, rfl⟩ := Program.yields_done ended
      exact .unaccepted delivering fault
  | ok =>
      obtain ⟨rfl, rfl⟩ := Program.yields_done ended
      exact .accepted delivering

/-! ## Handshake -/

/-- A session is opened at the same endpoint, or the answer makes no sense. -/
theorem open_session_cases (endpoint : Endpoint) (reply : Reply) :
    (∃ session, openSession endpoint reply = .ok session ∧ session.endpoint = endpoint) ∨
      (∃ reason, openSession endpoint reply = .error (.protocol reason)) ∨
        ∃ reason, openSession endpoint reply = .error (.configuration reason) := by
  cases reply with
  | start statePort heartbeatPort =>
      simp only [openSession, Session.ofPorts, Session.checkedPort]
      split
      · split
        · exact .inl ⟨_, rfl, rfl⟩
        · exact .inr (.inr ⟨_, rfl⟩)
      · exact .inr (.inr ⟨_, rfl⟩)
  | _ => exact .inr (.inl ⟨_, rfl⟩)

def startLines (endpoint : Endpoint) (text : String) : List Narration :=
  .startReceived text ::
    match openSession endpoint (Reply.ofText text) with
    | .ok session => [.portsReceived session.statePort session.heartbeatPort]
    | .error _ => []

def Greeting (endpoint : Endpoint) (devices : List Device) :
    Trace → Except Fault String → Prop :=
  let hello := Hello.text ⟨endpoint.listenPort, devices⟩
  Exchanging endpoint.listenPort endpoint.peerHost endpoint.peerPort hello [] [.helloSent hello]
    startCapacity "Start"

inductive Handshaking (endpoint : Endpoint) (devices : List Device) :
    Trace → Except Fault Session → Prop where
  | failed {trace : Trace} {fault : Fault} (greeting : Greeting endpoint devices trace (.error fault)) :
      Handshaking endpoint devices trace (.error fault)
  | answered {trace : Trace} {text : String} (greeting : Greeting endpoint devices trace (.ok text)) :
      Handshaking endpoint devices (trace ++ told (startLines endpoint text))
        (openSession endpoint (Reply.ofText text))

theorem handshaking {endpoint : Endpoint} {devices : List Device} {trace : Trace}
    {result : Except Fault Session} (passes : Passes (handshake endpoint devices) trace result) :
    Handshaking endpoint devices trace result := by
  have contacting : ∀ trace result, Passes (do
      deliver endpoint.peerHost endpoint.peerPort (Hello.text ⟨endpoint.listenPort, devices⟩)
      narrate (.helloSent (Hello.text ⟨endpoint.listenPort, devices⟩))
      orFault (← step .accept)) trace result →
        Contacting endpoint.peerHost endpoint.peerPort (Hello.text ⟨endpoint.listenPort, devices⟩)
          [] [.helloSent (Hello.text ⟨endpoint.listenPort, devices⟩)] trace result := by
    intro trace result passes
    rcases passes_bind passes with ⟨fault, rfl, failed⟩ | ⟨_, first, rest, sent, later, rfl⟩
    · exact .undelivered (delivering failed)
    · obtain ⟨others, rfl, accepting⟩ := passes_narrate_bind later
      exact contacting_delivered (delivering sent) accepting
  rcases exchanging contacting passes with
    ⟨fault, rfl, failed⟩ | ⟨text, first, rest, answered, told, rfl⟩
  · exact .failed failed
  · obtain ⟨others, rfl, opened⟩ := passes_narrate_bind told
    have whole := Handshaking.answered answered
    unfold startLines at whole
    cases session : openSession endpoint (Reply.ofText text) with
    | error fault =>
        rw [session] at opened whole
        obtain ⟨rfl, rfl⟩ := Program.yields_done opened
        exact whole
    | ok session =>
        simp only [session] at opened whole
        obtain ⟨last, rfl, ended⟩ := passes_narrate_bind opened
        obtain ⟨rfl, rfl⟩ := Program.yields_done ended
        exact whole

/-! ## Heartbeat -/

inductive Pulsing (timing : HeartbeatTiming) (session : Session) :
    Trace → Except Fault Unit → Prop where
  | unresolved (fault : IoFault) :
      Pulsing timing session
        (told [.heartbeat session.endpoint.peerHost session.heartbeatPort] ++
          [⟨.resolve session.endpoint.peerHost, .error fault⟩]) (.error (.io fault))
  | nowhere :
      Pulsing timing session
        (told [.heartbeat session.endpoint.peerHost session.heartbeatPort] ++
          [⟨.resolve session.endpoint.peerHost, .ok []⟩])
        (.error (.configuration
          ("could not resolve DGI host " ++ Text.quoted session.endpoint.peerHost)))
  | missed {addresses : List Address} {trace : Trace} {fault : IoFault} (known : addresses ≠ [])
      (connecting : Connecting session.heartbeatPort (some timing.connectTimeout) .noAddresses
        addresses trace (.error fault)) :
      Pulsing timing session
        (told [.heartbeat session.endpoint.peerHost session.heartbeatPort] ++
          ⟨.resolve session.endpoint.peerHost, .ok addresses⟩ :: trace)
        (.error (heartbeatFault session fault))
  | felt {addresses : List Address} {trace : Trace}
      (connecting : Connecting session.heartbeatPort (some timing.connectTimeout) .noAddresses
        addresses trace (.ok ())) :
      Pulsing timing session
        (told [.heartbeat session.endpoint.peerHost session.heartbeatPort] ++
          ⟨.resolve session.endpoint.peerHost, .ok addresses⟩ ::
            (trace ++ [⟨.wait timing.hold, ()⟩, ⟨.hangUp, ()⟩, ⟨.wait timing.rest, ()⟩])) (.ok ())

theorem pulsing {timing : HeartbeatTiming} {session : Session} {trace : Trace}
    {result : Except Fault Unit} (passes : Passes (heartbeat timing session) trace result) :
    Pulsing timing session trace result := by
  obtain ⟨others, rfl, begun⟩ := passes_narrate_bind passes
  obtain ⟨resolved, rest, rfl, found⟩ := passes_step_bind begun
  cases resolved with
  | error fault =>
      obtain ⟨rfl, rfl⟩ := passes_fault_bind found
      exact .unresolved fault
  | ok addresses =>
      cases addresses with
      | nil =>
          obtain ⟨rfl, rfl⟩ := Program.yields_done found
          exact .nowhere
      | cons address more =>
          obtain ⟨connected, first, later, tried, opened, rfl⟩ := passes_lift_bind found
          cases connected with
          | error fault =>
              obtain ⟨rfl, rfl⟩ := Program.yields_done opened
              rw [List.append_nil]
              exact .missed (List.cons_ne_nil address more) (connecting tried)
          | ok =>
              obtain ⟨_, second, rfl, held⟩ := passes_step_bind opened
              obtain ⟨_, third, rfl, ended⟩ := passes_step_bind held
              obtain ⟨_, fourth, rfl, rested⟩ := Program.yields_ask ended
              obtain ⟨rfl, rfl⟩ := Program.yields_done rested
              exact .felt (connecting tried)

/-! ## Disconnect -/

def Requesting (session : Session) (number : UInt32) : Trace → Except Fault String → Prop :=
  Exchanging session.endpoint.listenPort session.endpoint.peerHost session.statePort
    disconnectRequest [.askingToLeave number] [] disconnectCapacity "disconnect"

inductive Asking (session : Session) (number : UInt32) : Trace → Except Fault Reply → Prop where
  | failed {trace : Trace} {fault : Fault} (requesting : Requesting session number trace (.error fault)) :
      Asking session number trace (.error fault)
  | answered {trace : Trace} {text : String} (requesting : Requesting session number trace (.ok text)) :
      Asking session number trace (.ok (Reply.ofText text))

theorem asking {session : Session} {number : UInt32} {trace : Trace} {result : Except Fault Reply}
    (passes : Passes (askToLeave session number) trace result) :
    Asking session number trace result := by
  have contacting : ∀ trace result, Passes (do
      narrate (.askingToLeave number)
      deliver session.endpoint.peerHost session.statePort disconnectRequest
      orFault (← step .accept)) trace result →
        Contacting session.endpoint.peerHost session.statePort disconnectRequest
          [.askingToLeave number] [] trace result := by
    intro trace result passes
    obtain ⟨others, rfl, begun⟩ := passes_narrate_bind passes
    rcases passes_bind begun with ⟨fault, rfl, failed⟩ | ⟨_, first, rest, sent, accepting, rfl⟩
    · exact .undelivered (delivering failed)
    · exact contacting_delivered (delivering sent) accepting
  rcases exchanging contacting passes with
    ⟨fault, rfl, failed⟩ | ⟨text, first, rest, answered, ended, rfl⟩
  · exact .failed failed
  · obtain ⟨rfl, rfl⟩ := Program.yields_done ended
    rw [List.append_nil]
    exact .answered answered

/-- The wait after a rejection; no time at all is not waited for. -/
def pausing (policy : RetryPolicy) : Trace :=
  if policy.backoffMilliseconds = 0 then [] else [⟨.wait policy.backoffMilliseconds, ()⟩]

/-- Negotiating with so many numbers left after the one of the first attempt. -/
inductive Negotiating (policy : RetryPolicy) (session : Session) :
    Nat → UInt32 → Trace → Except Fault UInt32 → Prop where
  | failed (left : Nat) {number : UInt32} {trace : Trace} {fault : Fault}
      (asking : Asking session number trace (.error fault)) :
      Negotiating policy session left number trace (.error fault)
  | accepted (left : Nat) {number : UInt32} {trace : Trace}
      (asking : Asking session number trace (.ok .accepted)) :
      Negotiating policy session left number (trace ++ told [.accepted number]) (.ok number)
  | senseless (left : Nat) {number : UInt32} {trace : Trace} {reply : Reply} (reason : String)
      (asking : Asking session number trace (.ok reply)) (agreed : reply ≠ .accepted)
      (refused : reply ≠ .rejected) :
      Negotiating policy session left number trace (.error (Negotiation.responseFault reason))
  | refused (left : Nat) {number : UInt32} {trace : Trace}
      (asking : Asking session number trace (.ok .rejected))
      (exhausted : policy.exhausted number = true) :
      Negotiating policy session left number (trace ++ told [.rejected number])
        (.error (.refused number))
  | overflowed {number : UInt32} {trace : Trace}
      (asking : Asking session number trace (.ok .rejected))
      (allowed : policy.exhausted number = false) :
      Negotiating policy session 0 number (trace ++ (told [.rejected number] ++ pausing policy))
        (.error .countOverflow)
  | again {left : Nat} {number : UInt32} {trace others : Trace} {result : Except Fault UInt32}
      (asking : Asking session number trace (.ok .rejected))
      (allowed : policy.exhausted number = false)
      (negotiating : Negotiating policy session left (number + 1) others result) :
      Negotiating policy session (left + 1) number
        (trace ++ (told [.rejected number] ++ (pausing policy ++ others))) result

/-- What is left of a negotiation when an attempt was rejected and another one is allowed. -/
def goingOn (policy : RetryPolicy) : Nat → UInt32 → Negotiation.Talk (Except Fault UInt32)
  | 0, _ => pure (.error .countOverflow)
  | left + 1, number => Negotiation.askFrom policy left (number + 1)

def afterReply (policy : RetryPolicy) (left : Nat) (number : UInt32) :
    Reply → Negotiation.Talk (Except Fault UInt32)
  | .accepted => do
    Negotiation.say (.accepted number)
    return .ok number
  | .rejected => do
    Negotiation.say (.rejected number)
    if policy.exhausted number then return .error (.refused number)
    else
      Negotiation.waitFor policy.backoffMilliseconds
      goingOn policy left number
  | .start _ _ => pure (.error (Negotiation.responseFault "got a Start message"))
  | .malformed cause => pure (.error (Negotiation.responseFault cause.message))

theorem ask_from_eq (policy : RetryPolicy) (left : Nat) (number : UInt32) :
    Negotiation.askFrom policy left number = .ask (Negotiation.attempt number) fun
      | .ok reply => afterReply policy left number reply
      | .error fault => .done (.error fault) := by
  unfold Negotiation.askFrom
  refine congrArg (Program.ask (Negotiation.attempt number)) (funext fun answer => ?_)
  rcases answer with fault | reply
  · rfl
  · cases reply with
    | rejected => cases left <;> rfl
    | _ => rfl

/-- A rejection is told, and if another attempt is allowed it is waited for. -/
theorem after_rejection {policy : RetryPolicy} {session : Session} {left : Nat} {number : UInt32}
    {trace : Trace} {result : Except Fault UInt32}
    (yields : ((afterReply policy left number .rejected).perform (negotiationStep session)).Yields
      trace result) :
    (policy.exhausted number = true ∧ trace = told [.rejected number] ∧
        result = .error (.refused number)) ∨
      policy.exhausted number = false ∧ ∃ others,
        trace = told [.rejected number] ++ (pausing policy ++ others) ∧
          ((goingOn policy left number).perform (negotiationStep session)).Yields others result := by
  obtain ⟨_, rest, rfl, decided⟩ := Program.yields_ask yields
  have chosen : (Program.perform (negotiationStep session)
      (if policy.exhausted number then pure (.error (.refused number)) else do
        Negotiation.waitFor policy.backoffMilliseconds
        goingOn policy left number)).Yields rest result := decided
  cases exhausted : policy.exhausted number with
  | true =>
      rw [exhausted, if_pos rfl] at chosen
      obtain ⟨rfl, rfl⟩ := Program.yields_done chosen
      exact .inl ⟨rfl, rfl, rfl⟩
  | false =>
      rw [exhausted, if_neg Bool.false_ne_true] at chosen
      refine .inr ⟨rfl, ?_⟩
      unfold Negotiation.waitFor at chosen
      unfold pausing
      by_cases none : policy.backoffMilliseconds = 0
      · rw [if_pos none] at chosen ⊢
        exact ⟨rest, rfl, chosen⟩
      · rw [if_neg none] at chosen ⊢
        obtain ⟨_, others, rfl, waited⟩ := Program.yields_ask chosen
        exact ⟨others, rfl, waited⟩

theorem negotiating {policy : RetryPolicy} {session : Session} {left : Nat} {number : UInt32}
    {trace : Trace} {result : Except Fault UInt32}
    (yields : ((Negotiation.askFrom policy left number).perform (negotiationStep session)).Yields
      trace result) :
    Negotiating policy session left number trace result := by
  -- On the numbers that are left, as the recursion of the negotiation is.
  induction left using Nat.strongRecOn generalizing number trace with
  | ind left induction =>
  rw [ask_from_eq] at yields
  obtain ⟨first, answer, rest, asked, later, rfl⟩ := Program.yields_bind yields
  have asking := asking asked
  rcases answer with fault | reply
  · obtain ⟨rfl, rfl⟩ := Program.yields_done later
    rw [List.append_nil]
    exact .failed left asking
  · cases reply with
    | accepted =>
        obtain ⟨_, others, rfl, ended⟩ := Program.yields_ask later
        obtain ⟨rfl, rfl⟩ := Program.yields_done ended
        exact .accepted left asking
    | rejected =>
        rcases after_rejection later with
          ⟨exhausted, rfl, rfl⟩ | ⟨allowed, others, rfl, went⟩
        · exact .refused left asking exhausted
        · cases left with
          | zero =>
              obtain ⟨rfl, rfl⟩ := Program.yields_done went
              rw [List.append_nil]
              exact .overflowed asking allowed
          | succ less => exact .again asking allowed (induction less (Nat.lt_succ_self less) went)
    | start statePort heartbeatPort =>
        obtain ⟨rfl, rfl⟩ := Program.yields_done later
        rw [List.append_nil]
        exact .senseless left _ asking (fun same => nomatch same) (fun same => nomatch same)
    | malformed cause =>
        obtain ⟨rfl, rfl⟩ := Program.yields_done later
        rw [List.append_nil]
        exact .senseless left _ asking (fun same => nomatch same) (fun same => nomatch same)

/-- What can come of a disconnect is what can come of its negotiation, without the number. -/
theorem disconnecting {policy : RetryPolicy} {session : Session} {trace : Trace}
    {result : Except Fault Unit} (yields : (disconnect policy session).Yields trace result) :
    ∃ outcome, Negotiating policy session (Negotiation.lastAttempt - 1) 1 trace outcome ∧
      result = outcome.map fun _ => () := by
  obtain ⟨first, outcome, rest, went, ended, rfl⟩ := Program.yields_bind yields
  obtain ⟨rfl, rfl⟩ := Program.yields_done ended
  rw [List.append_nil]
  exact ⟨outcome, negotiating went, rfl⟩

end Tcp
end StandIn
