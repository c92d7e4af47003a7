import StandIn.Device
import StandIn.Session
import StandIn.Text.Decimal

/-!
The Hello announcement: the listen port, one line for each device, and an empty line. Every line
ends in a carriage return and a line feed.
-/

set_option autoImplicit false

namespace StandIn

structure Hello where
  listenPort : Port
  devices : List Device
deriving DecidableEq

namespace Hello

def lineEnd : List Char := ['\r', '\n']

def deviceLine (device : Device) : List Char :=
  device.text.toList ++ lineEnd

def encode (hello : Hello) : List Char :=
  Nat.toDigits 10 hello.listenPort.toNat ++ lineEnd ++ hello.devices.flatMap deviceLine ++ lineEnd

def text (hello : Hello) : String :=
  String.ofList hello.encode

end Hello
end StandIn
