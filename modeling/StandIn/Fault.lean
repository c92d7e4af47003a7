import StandIn.Device
import StandIn.Text.Decimal

/-!
Everything that can end a run. A fault is a cause; its wording is `Fault.message` and nothing else
in the library words it. A controller lives through `Fault.timeout` when a heartbeat meets it and
through nothing else; an input or output fault of kind `timedOut` is not a timeout in this sense.
-/

set_option autoImplicit false

namespace StandIn

/-- What went wrong below the level of messages, by kind. -/
inductive IoKind where
  | connectionRefused
  | connectionReset
  | timedOut
  | wouldBlock
  | brokenPipe
  | addrInUse
  | unexpectedEof
  | invalidInput
  | networkUnreachable
  | uncategorized
  /-- Any kind that has no name here. -/
  | other (wording : String)
deriving DecidableEq

namespace IoKind

/-- The wording of a kind that came without any details. -/
def text : IoKind → String
  | connectionRefused => "connection refused"
  | connectionReset => "connection reset"
  | timedOut => "timed out"
  | wouldBlock => "operation would block"
  | brokenPipe => "broken pipe"
  | addrInUse => "address in use"
  | unexpectedEof => "unexpected end of file"
  | invalidInput => "invalid input parameter"
  | networkUnreachable => "network unreachable"
  | uncategorized => "uncategorized error"
  | other wording => wording

def systemText : IoKind → String
  | connectionRefused => "Connection refused (os error 111)"
  | connectionReset => "Connection reset by peer (os error 104)"
  | timedOut => "Connection timed out (os error 110)"
  | wouldBlock => "Resource temporarily unavailable (os error 11)"
  | brokenPipe => "Broken pipe (os error 32)"
  | addrInUse => "Address already in use (os error 98)"
  | networkUnreachable => "Network is unreachable (os error 101)"
  | invalidInput => "Invalid argument (os error 22)"
  | unexpectedEof => text unexpectedEof
  | uncategorized => text uncategorized
  | other wording => wording

end IoKind

/-- A failed step of input or output, by who reported it. -/
inductive IoFault where
  /-- Reported by the operating system. -/
  | system (kind : IoKind)
  /-- A host name that nobody knows. -/
  | nameNotFound
  /-- A host that is known but has no address. -/
  | noAddresses
  /-- A name that no system call can carry because it holds the character of code zero. -/
  | zeroInName
  /-- No time at all was given for a connection that was not there at once. -/
  | noTime
  /-- Reported by a stand-in for the system, with or without details. -/
  | reported (kind : IoKind) (details : Option String)
deriving DecidableEq

namespace IoFault

def kind : IoFault → IoKind
  | system kind => kind
  | nameNotFound => .uncategorized
  | noAddresses => .invalidInput
  | zeroInName => .invalidInput
  | noTime => .invalidInput
  | reported kind _ => kind

def message : IoFault → String
  | system kind => kind.systemText
  | nameNotFound => "failed to lookup address information: Name or service not known"
  | noAddresses => "could not resolve to any addresses"
  | zeroInName => "file name contained an unexpected NUL byte"
  | noTime => "cannot set a 0 duration timeout"
  | reported kind none => kind.text
  | reported _ (some details) => details

/-- Whether a connection attempt with this fault ran out of time. -/
def isTimeout (fault : IoFault) : Bool :=
  fault.kind = .timedOut || fault.kind = .wouldBlock

end IoFault

inductive Fault where
  /-- A port out of range, a host without addresses, or settings that cannot be used. -/
  | configuration (reason : String)
  /-- A reply of the peer that makes no sense where it came. -/
  | protocol (reason : String)
  /-- A device was to be disabled that is not enabled. -/
  | notEnabled (device : Device)
  /-- The peer could not be reached in time. -/
  | timeout (what : String)
  /-- A command argument of the right form with a value that makes no sense. -/
  | invalidArgument (reason : String)
  /-- A script line that is no command; lines are numbered from one. -/
  | scriptLine (number : Nat) (reason : String)
  /-- The peer rejected every disconnect request that the retry policy allows. -/
  | refused (attempts : UInt32)
  /-- The attempts at a disconnect have come to more than can be counted. -/
  | countOverflow
  | io (fault : IoFault)
deriving DecidableEq

namespace Fault

def message : Fault → String
  | configuration reason => "configuration error: " ++ reason
  | protocol reason => "protocol error: " ++ reason
  | notEnabled device => "device '" ++ device.text ++ "' is not enabled"
  | timeout what => "timed out: " ++ what
  | invalidArgument reason => "invalid argument: " ++ reason
  | scriptLine number reason => "script line " ++ Text.ofNat number ++ ": " ++ reason
  | refused attempts => "peer rejected polite disconnect " ++ Text.ofNat attempts.toNat ++ " times"
  | countOverflow => "attempt to add with overflow"
  | io fault => "io error: " ++ fault.message

/-- Whether a heartbeat with this fault is answered by a new handshake. -/
def isTimeout : Fault → Bool
  | timeout _ => true
  | _ => false

/-- The fault behind this one, if it only passes one on. -/
def cause : Fault → Option String
  | io fault => some fault.message
  | _ => none

end Fault
end StandIn
