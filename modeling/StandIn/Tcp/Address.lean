set_option autoImplicit false

namespace StandIn

/-- An internet address, of four numbers or of eight. -/
inductive Address where
  | v4 (first second third fourth : UInt8)
  | v6 (segments : List UInt16)
deriving DecidableEq

end StandIn
