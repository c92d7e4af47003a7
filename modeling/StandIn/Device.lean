set_option autoImplicit false

namespace StandIn

/-- A simulated device. The pair of type and name is its identity. -/
structure Device where
  kind : String
  name : String
deriving DecidableEq

namespace Device

/-- The type and the name with one space between them, as every message writes a device. -/
def text (device : Device) : String :=
  device.kind ++ " " ++ device.name

end Device
end StandIn
