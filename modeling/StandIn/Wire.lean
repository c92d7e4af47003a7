import StandIn.Narration
import StandIn.Program

/-!
What a controller does outside itself. It announces its devices and awaits a session, proves that
it is alive, asks to be let go, falls silent for a while, and tells about its work. Each of the
first three may fail with any fault; what they mean on a network is not said here.
-/

set_option autoImplicit false

namespace StandIn

inductive Wire where
  | narrate (line : Narration)
  | handshake (endpoint : Endpoint) (devices : List Device)
  | heartbeat (session : Session)
  | disconnect (session : Session)
  | pause (seconds : Nat)

namespace Wire

abbrev Answer : Wire → Type
  | narrate _ => Unit
  | handshake _ _ => Except Fault Session
  | heartbeat _ => Except Fault Unit
  | disconnect _ => Except Fault Unit
  | pause _ => Unit

end Wire

abbrev Conversation := Program Wire.Answer

end StandIn
