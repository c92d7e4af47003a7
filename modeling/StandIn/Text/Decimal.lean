/-!
Whole numbers written in decimal digits. A written number is one optional sign and at least one
ASCII digit; it may have leading zeros and be of any length.
-/

set_option autoImplicit false

namespace StandIn.Text

def isDigits (text : List Char) : Bool :=
  !text.isEmpty && text.all Char.isDigit

/-- Takes a sign off the front: whether the number is negative, and what is left. -/
def splitSign : List Char → Bool × List Char
  | '-' :: rest => (true, rest)
  | '+' :: rest => (false, rest)
  | text => (false, text)

/-- The integer that a written number stands for, and nothing for any other text. -/
def integer? (text : String) : Option Int :=
  let (negative, digits) := splitSign text.toList
  if isDigits digits then
    let magnitude : Int := Nat.ofDigitChars 10 digits 0
    some (if negative then -magnitude else magnitude)
  else none

/-- The decimal text of a natural number, without leading zeros. -/
def ofNat (number : Nat) : String :=
  String.ofList (Nat.toDigits 10 number)

def ofInt (number : Int) : String :=
  if number < 0 then "-" ++ ofNat number.natAbs else ofNat number.natAbs

theorem is_digits_to_digits (number : Nat) : isDigits (Nat.toDigits 10 number) = true := by
  simp only [isDigits, Bool.and_eq_true, List.all_eq_true]
  refine ⟨?_, fun digit member => Nat.isDigit_of_mem_toDigits (by decide) (by decide) member⟩
  simp [Nat.toDigits_ne_nil]

theorem split_sign_to_digits (number : Nat) :
    splitSign (Nat.toDigits 10 number) = (false, Nat.toDigits 10 number) := by
  have digits : ∀ digit ∈ Nat.toDigits 10 number, digit.isDigit = true := fun _ member =>
    Nat.isDigit_of_mem_toDigits (by decide) (by decide) member
  unfold splitSign
  split
  · exact absurd (digits '-' (by simp_all)) (by decide)
  · exact absurd (digits '+' (by simp_all)) (by decide)
  · rfl

theorem integer_of_nat (number : Nat) : integer? (ofNat number) = some (number : Int) := by
  simp only [integer?, ofNat, String.toList_ofList, split_sign_to_digits, is_digits_to_digits,
    Nat.ofDigitChars_ten_toDigits, if_true]
  rfl

end StandIn.Text
