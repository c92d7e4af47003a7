import StandIn.Device
import StandIn.Text.Decimal

set_option autoImplicit false

namespace StandIn

/-- What a script line can ask of the controller. -/
inductive Command where
  | enable (device : Device)
  | disable (device : Device)
  /-- Fall silent for some seconds, then announce the devices again. -/
  | dieHorribly (seconds : Nat)
  /-- Idle for a number of ticks of one heartbeat each. -/
  | sleep (seconds : Nat)
deriving DecidableEq

namespace Command

/-- The command as a script line. -/
def text : Command → String
  | enable device => "enable " ++ device.text
  | disable device => "disable " ++ device.text
  | dieHorribly seconds => "dieHorribly " ++ Text.ofNat seconds
  | sleep seconds => "sleep " ++ Text.ofNat seconds

end Command
end StandIn
