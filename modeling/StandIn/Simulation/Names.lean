import StandIn.Fault
import StandIn.Tcp.Literal

/-!
The names of the simulated network. The one host that answers is 127.0.0.1; the other addresses
are there to be tried in vain before it or after it.
-/

set_option autoImplicit false

namespace StandIn.Simulation

def liveHost : Address := .v4 127 0 0 1

/-- An address of this machine on which nobody ever listens. -/
def deadHost : Address := .v4 127 0 0 2

/-- An address to which no route leads. -/
def farHost : Address := .v4 192 0 2 1

def names : List (String × List Address) :=
  [("localhost", [liveHost]),
    ("dead-live.test", [deadHost, liveHost]),
    ("live-dead.test", [liveHost, deadHost]),
    ("far-live.test", [farHost, liveHost]),
    ("dead-far.test", [deadHost, farHost]),
    ("far-dead.test", [farHost, deadHost]),
    ("none.test", [])]

/-- The addresses of a host: itself if it is written as an address, else those of its name. -/
def resolve (host : String) : Except IoFault (List Address) :=
  match Address.ofText? host with
  | some address => .ok [address]
  | none =>
    if host.toList.contains '\x00' then .error .zeroInName
    else
      match names.lookup host with
      | some addresses => .ok addresses
      | none => .error .nameNotFound

def unanswered : Address → IoFault
  | .v4 127 _ _ _ => .system .connectionRefused
  | .v6 [0, 0, 0, 0, 0, 0, 0, 1] => .system .connectionRefused
  | _ => .system .networkUnreachable

end StandIn.Simulation
