import StandIn.Narration
import StandIn.Program
import StandIn.Tcp.Address

/-!
The steps below messages: what an exchange of messages does with sockets. At any time there is at
most one listener, one connection that was opened and one that was accepted, so a step need not
name them. A step that fails leaves nothing open that was not open before.
-/

set_option autoImplicit false

namespace StandIn

inductive Socket where
  | narrate (line : Narration)
  /-- Takes a port of one's own, so that others can connect to it. -/
  | listen (port : Port)
  /-- Gives the port of one's own back, and with it connections that were not accepted. -/
  | release
  /-- The addresses of a host in the order in which they are to be tried. -/
  | resolve (host : String)
  /-- Opens a connection, within so many milliseconds if a limit is given. -/
  | connect (address : Address) (port : Port) (limit : Option Nat)
  /-- Writes all of a message to the connection that was opened. -/
  | send (message : String)
  /-- Ends the connection that was opened. -/
  | hangUp
  /-- Waits for the next connection to the port of one's own. -/
  | accept
  /-- Reads once from the connection that was accepted, at most so many bytes, and ends it. -/
  | receive (capacity : Nat)
  | wait (milliseconds : Nat)

namespace Socket

abbrev Answer : Socket → Type
  | narrate _ => Unit
  | listen _ => Except IoFault Unit
  | release => Unit
  | resolve _ => Except IoFault (List Address)
  | connect _ _ _ => Except IoFault Unit
  | send _ => Except IoFault Unit
  | hangUp => Unit
  | accept => Except IoFault Unit
  | receive _ => Except IoFault (List UInt8)
  | wait _ => Unit

end Socket

abbrev Traffic := Program Socket.Answer

/-- The traffic of a single step. -/
def Socket.once (request : Socket) : Traffic request.Answer :=
  Program.request request

end StandIn
