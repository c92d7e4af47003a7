import Std.Async.DNS
import Std.Async.TCP
import Std.Async.Timer
import StandIn.Tcp.Socket
import StandIn.Text.Utf8

/-!
The steps of an exchange on the network of this machine. This is the only place where the program
touches a socket; which steps are taken, and what follows from their answers, is decided elsewhere.
-/

set_option autoImplicit false

namespace StandIn.Live

open Std.Net (IPAddr IPv4Addr IPv6Addr SocketAddress)
open Std.Async.TCP.Socket (Client Server)

/-- The number that an error carries, if it carries one. -/
def carriedNumber : IO.Error → Option UInt32
  | .resourceBusy number _ => some number
  | .resourceVanished number _ => some number
  | .timeExpired number _ => some number
  | .invalidArgument _ number _ => some number
  | .resourceExhausted _ number _ => some number
  | .noSuchThing _ number _ => some number
  | .noFileOrDirectory _ number _ => some number
  | .inappropriateType _ number _ => some number
  | .otherError number _ => some number
  | _ => none

/-- The number by which the operating system knows an error. Some are carried negated. -/
def systemNumber (error : IO.Error) : Option UInt32 :=
  (carriedNumber error).map fun number => if number < 0x80000000 then number else 0 - number

def kindOfNumber : UInt32 → Option IoKind
  | 11 => some .wouldBlock
  | 22 => some .invalidInput
  | 32 => some .brokenPipe
  | 98 => some .addrInUse
  | 101 => some .networkUnreachable
  | 104 => some .connectionReset
  | 110 => some .timedOut
  | 111 => some .connectionRefused
  | _ => none

def faultOf (error : IO.Error) : IoFault :=
  match (systemNumber error).bind kindOfNumber with
  | some kind => .system kind
  | none => .reported .uncategorized (some (toString error))

/-- The sockets that are open. Dropping one closes it. -/
structure Sockets where
  server : IO.Ref (Option Server)
  outgoing : IO.Ref (Option Client)
  incoming : IO.Ref (Option Client)

def Sockets.fresh : IO Sockets := do
  return ⟨← IO.mkRef none, ← IO.mkRef none, ← IO.mkRef none⟩

def attempt {Value : Type} (action : IO Value) : IO (Except IoFault Value) := do
  match ← action.toBaseIO with
  | .ok value => return .ok value
  | .error error => return .error (faultOf error)

def ofSystem : IPAddr → Address
  | .v4 address => .v4 address.octets[0] address.octets[1] address.octets[2] address.octets[3]
  | .v6 address => .v6 address.segments.toList

def toSystem (address : Address) (port : Port) : SocketAddress :=
  match address with
  | .v4 first second third fourth => .v4 ⟨IPv4Addr.ofParts first second third fourth, port⟩
  | .v6 [a, b, c, d, e, f, g, h] => .v6 ⟨IPv6Addr.ofParts a b c d e f g h, port⟩
  | .v6 _ => .v6 ⟨IPv6Addr.ofParts 0 0 0 0 0 0 0 0, port⟩

def resolve (host : String) : IO (Except IoFault (List Address)) := do
  if host.toList.contains '\x00' then return .error .zeroInName
  match ← (Std.Async.DNS.getAddrInfo host "").block.toBaseIO with
  | .ok found => return .ok (found.toList.map ofSystem).eraseDups
  | .error _ => return .error .nameNotFound

def anyAddress : Address := .v4 0 0 0 0

def listen (sockets : Sockets) (port : Port) : IO (Except IoFault Unit) := attempt do
  let server ← Server.mk
  server.bind (toSystem anyAddress port)
  server.listen 128
  sockets.server.set (some server)

def pause (milliseconds : Nat) : IO Unit :=
  (Std.Async.sleep (Std.Time.Millisecond.Offset.ofNat milliseconds)).block

def connectWithin (client : Client) (address : SocketAddress) (limit : Nat) : IO Bool :=
  (Std.Async.Async.race
    (do client.connect address; return true)
    (do Std.Async.sleep (Std.Time.Millisecond.Offset.ofNat limit); return false)).block

def connect (sockets : Sockets) (address : Address) (port : Port) (limit : Option Nat) :
    IO (Except IoFault Unit) := do
  let opened ← attempt do
    let client ← Client.mk
    match limit with
    | none =>
      (client.connect (toSystem address port)).block
      return some client
    | some limit =>
      return if ← connectWithin client (toSystem address port) limit then some client else none
  match opened with
  | .error fault => return .error fault
  | .ok none => return .error (if limit = some 0 then .noTime else .system .timedOut)
  | .ok (some client) =>
    sockets.outgoing.set (some client)
    return .ok ()

def send (sockets : Sockets) (message : String) : IO (Except IoFault Unit) := attempt do
  if let some client := ← sockets.outgoing.get then
    (client.send message.toUTF8).block
    client.shutdown.block

def accept (sockets : Sockets) : IO (Except IoFault Unit) := attempt do
  if let some server := ← sockets.server.get then
    sockets.incoming.set (some (← server.accept.block))

def receive (sockets : Sockets) (capacity : Nat) : IO (Except IoFault (List UInt8)) := do
  let received ← attempt do
    match ← sockets.incoming.get with
    | none => return []
    | some client =>
      match ← (client.recv? (UInt64.ofNat capacity)).block with
      | none => return []
      | some bytes => return bytes.data.toList
  sockets.incoming.set none
  return received

/-- Takes each step on this machine, and tells what is told in the given way. -/
def answer (sockets : Sockets) (tell : Narration → IO Unit) :
    (request : Socket) → IO request.Answer
  | .narrate line => tell line
  | .listen port => listen sockets port
  | .release => sockets.server.set none
  | .resolve host => resolve host
  | .connect address port limit => connect sockets address port limit
  | .send message => send sockets message
  | .hangUp => sockets.outgoing.set none
  | .accept => accept sockets
  | .receive capacity => receive sockets capacity
  | .wait milliseconds => pause milliseconds

end StandIn.Live
