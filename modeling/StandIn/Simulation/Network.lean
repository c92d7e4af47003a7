import StandIn.Simulation.Names
import StandIn.Tcp.Socket
import StandIn.Text.Utf8

/-!
A network with one scripted peer. The peer takes Hellos on one port and disconnect requests on
another; it reads each message to its end, then connects to the listen port of the controller and
gives the next prepared answer. A port whose answers are used up is closed. A third port takes
heartbeats, and connections to a fourth run out of time.
-/

set_option autoImplicit false

namespace StandIn.Simulation

structure Peer where
  /-- Where the peer sends its answers. -/
  answersTo : Port
  handshakePort : Port
  statePort : Port
  heartbeatPort : Port
  timeoutPort : Port
  /-- The answers to Hellos that are still to be given. -/
  starts : List (List UInt8) := []
  /-- The answers to disconnect requests that are still to be given. -/
  farewells : List (List UInt8) := []
  hellos : List String := []
  requests : List String := []
  heartbeats : List String := []

inductive Party where
  | hello
  | request
  | heartbeat
  | controller

def Peer.party? (peer : Peer) (port : Port) : Option Party :=
  if port = peer.handshakePort then (if peer.starts.isEmpty then none else some .hello)
  else if port = peer.statePort then (if peer.farewells.isEmpty then none else some .request)
  else if port = peer.heartbeatPort then some .heartbeat
  else none

structure Network where
  peer : Option Peer := none
  /-- A port that another program has taken. -/
  taken : Option Port := none
  listening : Option Port := none
  /-- What arrives on the connections that wait to be accepted. -/
  waiting : List (List UInt8) := []
  /-- The connection that the controller opened, and what it has sent on it. -/
  outgoing : Option (Party × String) := none
  /-- What is to be read from the connection that the controller accepted. -/
  accepted : List UInt8 := []

namespace Network

def listen (network : Network) (port : Port) : Except IoFault Unit × Network :=
  let inUse := network.taken = some port || (network.peer.bind (Peer.party? · port)).isSome
  if inUse then (.error (.system .addrInUse), network)
  else (.ok (), { network with listening := some port, waiting := [] })

/-- How waiting in vain for a connection ends. -/
def outOfTime (limit : Option Nat) : IoFault :=
  if limit = some 0 then .noTime else .system .timedOut

def connect (network : Network) (address : Address) (port : Port) (limit : Option Nat) :
    Except IoFault Unit × Network :=
  if address ≠ liveHost then (.error (unanswered address), network)
  else if network.peer.any (·.timeoutPort = port) then (.error (outOfTime limit), network)
  else
    let party :=
      if network.listening = some port then some .controller
      else network.peer.bind (Peer.party? · port)
    match party with
    | some found => (.ok (), { network with outgoing := some (found, "") })
    | none => (.error (unanswered address), network)

/-- Lets what arrives on a new connection wait at the given port, if that is being listened on. -/
def arrive (network : Network) (port : Port) (bytes : List UInt8) : Network :=
  if network.listening = some port then { network with waiting := network.waiting ++ [bytes] }
  else network

/-- The peer, or whoever else it was sent to, has read the message to its end. -/
def conclude (network : Network) : Network :=
  let ended := { network with outgoing := none }
  match network.outgoing, network.peer with
  | some (.hello, message), some peer =>
    let noted := { peer with hellos := peer.hellos ++ [message], starts := peer.starts.tail }
    { ended with peer := some noted }.arrive peer.answersTo (peer.starts.headD [])
  | some (.request, message), some peer =>
    let noted := { peer with
      requests := peer.requests ++ [message], farewells := peer.farewells.tail }
    { ended with peer := some noted }.arrive peer.answersTo (peer.farewells.headD [])
  | some (.heartbeat, message), some peer =>
    { ended with peer := some { peer with heartbeats := peer.heartbeats ++ [message] } }
  | some (.controller, message), _ =>
    match network.listening with
    | some port => ended.arrive port (Text.bytesOf message)
    | none => ended
  | _, _ => ended

def send (network : Network) (message : String) : Network :=
  { network with outgoing := network.outgoing.map fun (party, sent) => (party, sent ++ message) }

/-- A wait for a connection that could never come is ended by a fault. -/
def accept (network : Network) : Except IoFault Unit × Network :=
  match network.waiting with
  | [] => (.error (.system .wouldBlock), network)
  | bytes :: others => (.ok (), { network with accepted := bytes, waiting := others })

def answer : Behaviour Socket.Answer Network
  | .narrate _, network => ((), network)
  | .listen port, network => network.listen port
  | .release, network => ((), { network with listening := none, waiting := [] })
  | .resolve host, network => (resolve host, network)
  | .connect address port limit, network => network.connect address port limit
  | .send message, network => (.ok (), network.send message)
  | .hangUp, network => ((), network.conclude)
  | .accept, network => network.accept
  | .receive capacity, network =>
    (.ok (network.accepted.take capacity), { network with accepted := [] })
  | .wait _, network => ((), network)

end Network

def narrated : List (Exchange Socket.Answer) → List Narration
  | [] => []
  | ⟨.narrate line, _⟩ :: rest => line :: narrated rest
  | _ :: rest => narrated rest

end StandIn.Simulation
