import StandIn.Hello
import StandIn.Negotiation
import StandIn.Tcp.Socket
import StandIn.Text.Utf8
import StandIn.Wire

/-!
The wire over sockets. A message goes out on a connection of its own, and the answer comes back on
a connection that the peer opens to the listen port. The listen port is taken before anything is
sent, so that no answer can come too early, and it is given back as soon as the answer has been
accepted or the exchange has failed. Replies are read once and never beyond a fixed capacity.
-/

set_option autoImplicit false

namespace StandIn

/-- The timing of one heartbeat, in milliseconds: connect, hold the connection, close it, rest. -/
structure HeartbeatTiming where
  hold : Nat := 500
  rest : Nat := 500
  connectTimeout : Nat := 5000
deriving DecidableEq

namespace Tcp

abbrev Passage := ExceptT Fault Traffic

def step (request : Socket) : Passage (Socket.Answer request) :=
  ExceptT.lift request.once

def narrate (line : Narration) : Passage Unit :=
  step (.narrate line)

def orFault {Value : Type} : Except IoFault Value → Passage Value
  | .ok value => pure value
  | .error fault => throw (.io fault)

/-- Tries the addresses in order up to the first that connects; if none does, the fault is that of
the last one tried, or the given one if there was none to try. -/
def connectFirst (port : Port) (limit : Option Nat) (fault : IoFault) :
    List Address → Traffic (Except IoFault Unit)
  | [] => pure (.error fault)
  | address :: others => do
    match ← Socket.once (.connect address port limit) with
    | .ok () => pure (.ok ())
    | .error next => connectFirst port limit next others

/-- Sends a message on a connection of its own, which is ended in any case. -/
def deliver (host : String) (port : Port) (message : String) : Passage Unit := do
  let addresses ← orFault (← step (.resolve host))
  orFault (← ExceptT.lift (connectFirst port none .noAddresses addresses))
  let sent ← step (.send message)
  step .hangUp
  orFault sent

/-- Gives the listen port back when the passage is over, whether it succeeded or not. -/
def thenRelease {Value : Type} (passage : Passage Value) : Passage Value :=
  ExceptT.mk do
    let result ← passage.run
    Socket.once .release
    return result

/-- Reads the accepted answer, and tells if there may have been more of it. -/
def readReply (capacity : Nat) (what : String) : Passage String := do
  let bytes ← orFault (← step (.receive capacity))
  if bytes.length = capacity then narrate (.truncated what capacity)
  return Text.decodeLossy bytes

def startCapacity : Nat := 64

def disconnectCapacity : Nat := 32

def disconnectRequest : String := "PoliteDisconnect\r\n\r\n"

def startFault (reason : String) : Fault :=
  .protocol ("received malformed Start message from DGI: " ++ reason)

def openSession (endpoint : Endpoint) : Reply → Except Fault Session
  | .start statePort heartbeatPort => Session.ofPorts endpoint statePort heartbeatPort
  | .malformed cause => .error (startFault cause.message)
  | .accepted => .error (startFault "expected ports, got Accepted")
  | .rejected => .error (startFault "expected ports, got Rejected")

def handshake (endpoint : Endpoint) (devices : List Device) : Passage Session := do
  orFault (← step (.listen endpoint.listenPort))
  let hello := Hello.text ⟨endpoint.listenPort, devices⟩
  thenRelease do
    deliver endpoint.peerHost endpoint.peerPort hello
    narrate (.helloSent hello)
    orFault (← step .accept)
  let reply ← readReply startCapacity "Start"
  narrate (.startReceived reply)
  match openSession endpoint (Reply.ofText reply) with
  | .error fault => throw fault
  | .ok session =>
    narrate (.portsReceived session.statePort session.heartbeatPort)
    return session

def heartbeatFault (session : Session) (fault : IoFault) : Fault :=
  if fault.isTimeout then
    .timeout ("heartbeat to " ++ session.endpoint.peerHost ++ ":" ++
      Narration.portText session.heartbeatPort)
  else .io fault

/-- The connection itself is the heartbeat: nothing is sent on it. -/
def heartbeat (timing : HeartbeatTiming) (session : Session) : Passage Unit := do
  let host := session.endpoint.peerHost
  narrate (.heartbeat host session.heartbeatPort)
  let addresses ← orFault (← step (.resolve host))
  if addresses.isEmpty then
    throw (.configuration ("could not resolve DGI host " ++ Text.quoted host))
  match ← ExceptT.lift
      (connectFirst session.heartbeatPort (some timing.connectTimeout) .noAddresses addresses) with
  | .error fault => throw (heartbeatFault session fault)
  | .ok () =>
    step (.wait timing.hold)
    step .hangUp
    step (.wait timing.rest)

def askToLeave (session : Session) (number : UInt32) : Passage Reply := do
  orFault (← step (.listen session.endpoint.listenPort))
  thenRelease do
    narrate (.askingToLeave number)
    deliver session.endpoint.peerHost session.statePort disconnectRequest
    orFault (← step .accept)
  return Reply.ofText (← readReply disconnectCapacity "disconnect")

def negotiationStep (session : Session) : (request : Negotiation) → Traffic request.Answer
  | .attempt number => (askToLeave session number).run
  | .narrate line => Socket.once (.narrate line)
  | .wait milliseconds => Socket.once (.wait milliseconds)

def disconnect (policy : RetryPolicy) (session : Session) : Traffic (Except Fault Unit) := do
  let outcome ← (Negotiation.negotiate policy).perform (negotiationStep session)
  return outcome.map fun _ => ()

def carry (timing : HeartbeatTiming) (policy : RetryPolicy) :
    (request : Wire) → Traffic request.Answer
  | .narrate line => Socket.once (.narrate line)
  | .handshake endpoint devices => (handshake endpoint devices).run
  | .heartbeat session => (heartbeat timing session).run
  | .disconnect session => disconnect policy session
  | .pause seconds => Socket.once (.wait (1000 * seconds))

end Tcp
end StandIn
