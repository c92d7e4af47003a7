/-!
Floating-point numbers of 64 bits, exactly. A finite one is a mantissa of at most 53 bits times a
power of two that is at least -1074. A decimal number is rounded to the nearest of them, a half to
the even mantissa, and what is too great for all of them is infinite.
-/

set_option autoImplicit false

namespace StandIn

inductive Binary64 where
  | finite (negative : Bool) (mantissa : Nat) (exponent : Int)
  | infinite (negative : Bool)
  | notANumber
deriving DecidableEq

namespace Binary64

/-- Two to the power of 53. -/
def mantissaBound : Nat := 9007199254740992

def leastExponent : Int := -1074

def greatestExponent : Int := 971

def zero (negative : Bool) : Binary64 :=
  finite negative 0 leastExponent

def powerOfTen (power : Nat) : Nat :=
  Nat.pow 10 power

/-- The nearest whole number to a quotient, and the even one of two. -/
def nearestQuotient (numerator denominator : Nat) : Nat :=
  let quotient := numerator / denominator
  let twice := 2 * (numerator % denominator)
  if twice < denominator then quotient
  else if denominator < twice then quotient + 1
  else quotient + quotient % 2

/-- The quotient divided by a power of two, as a quotient again. -/
def scaled (numerator denominator : Nat) (exponent : Int) : Nat × Nat :=
  if 0 ≤ exponent then (numerator, denominator <<< exponent.toNat)
  else (numerator <<< (-exponent).toNat, denominator)

def ofQuotient (negative : Bool) (numerator denominator : Nat) : Binary64 :=
  let bits : Int := (Nat.log2 numerator : Int) - Nat.log2 denominator
  let first := max (bits - 53) leastExponent
  let (top, bottom) := scaled numerator denominator first
  let exponent := if top / bottom < mantissaBound then first else first + 1
  let (top, bottom) := scaled numerator denominator exponent
  let rounded := nearestQuotient top bottom
  let (mantissa, exponent) :=
    if rounded < mantissaBound then (rounded, exponent) else (rounded / 2, exponent + 1)
  if greatestExponent < exponent then infinite negative else finite negative mantissa exponent

def ofDecimal (negative : Bool) (digits : Nat) (power : Int) : Binary64 :=
  if digits = 0 then zero negative
  else
    let magnitude : Int := (Nat.toDigits 10 digits).length + power
    if magnitude < -330 then zero negative
    else if 310 < magnitude then infinite negative
    else if 0 ≤ power then ofQuotient negative (digits * powerOfTen power.toNat) 1
    else ofQuotient negative digits (powerOfTen (-power).toNat)

end Binary64
end StandIn
