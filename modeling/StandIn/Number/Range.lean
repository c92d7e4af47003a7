/-!
Ranges of whole numbers, by the bits that hold the numbers.
-/

set_option autoImplicit false

namespace StandIn

inductive Width where
  | sixteen
  | thirtyTwo
  | sixtyFour
deriving DecidableEq

namespace Width

/-- The first number that the bits do not hold. -/
def bound : Width → Int
  | sixteen => 65536
  | thirtyTwo => 4294967296
  | sixtyFour => 18446744073709551616

def text : Width → String
  | sixteen => "u16"
  | thirtyTwo => "u32"
  | sixtyFour => "u64"

end Width

def isSigned64 (number : Int) : Bool :=
  -9223372036854775808 ≤ number && number ≤ 9223372036854775807

end StandIn
