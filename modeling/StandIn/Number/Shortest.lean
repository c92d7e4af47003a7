import StandIn.Number.Binary64

/-!
The shortest decimal text of a floating-point number: the fewest digits that are nearer to it than
to any other number of 64 bits, and of those the nearest. The text is positional, however long,
and always has a point.
-/

set_option autoImplicit false

namespace StandIn.Binary64

/-- A positive number in quarters of the distance to the next one, with the interval of reals that
round to it. A power of two is only half as far from the number below it. -/
structure Neighbourhood where
  least : Nat
  value : Nat
  greatest : Nat
  /-- Whether the ends round to the number as well. -/
  closed : Bool
  /-- The power of two that a quarter stands for. -/
  exponent : Int

def neighbourhood (mantissa : Nat) (exponent : Int) : Neighbourhood where
  least :=
    if 2 * mantissa = mantissaBound ∧ leastExponent < exponent then 4 * mantissa - 1
    else 4 * mantissa - 2
  value := 4 * mantissa
  greatest := 4 * mantissa + 2
  closed := mantissa % 2 = 0
  exponent := exponent - 2

def leadingPower (numerator denominator : Nat) : Int :=
  if denominator ≤ numerator then (Nat.toDigits 10 (numerator / denominator)).length - 1
  else -((Nat.toDigits 10 (denominator / numerator)).length : Int)

/-- A step of a decimal grid in quarters, as a quotient. -/
def gridStep (power exponent : Int) : Nat × Nat :=
  let (up, down) :=
    if 0 ≤ power then (powerOfTen power.toNat, 1) else (1, powerOfTen (-power).toNat)
  scaled up down exponent

/-- The point of the grid with this step that is nearest to the value, if it or its other
neighbour rounds to the value. -/
def onGrid (around : Neighbourhood) (power : Int) : Option Nat :=
  let (up, down) := gridStep power around.exponent
  let below := around.value * down / up
  let inside (point : Nat) : Bool :=
    if around.closed then around.least * down ≤ point * up && point * up ≤ around.greatest * down
    else around.least * down < point * up && point * up < around.greatest * down
  let remainder := around.value * down - below * up
  let nearer := if 2 * remainder < up then below else below + 1
  let farther := if 2 * remainder < up then below + 1 else below
  if inside nearer then some nearer
  else if inside farther then some farther
  else none

def shortestFrom (around : Neighbourhood) (leading : Int) : Nat → Nat → Nat × Int
  | 0, digits => ((onGrid around (leading - digits)).getD 0, leading - digits)
  | left + 1, digits =>
    match onGrid around (leading - digits) with
    | some point => (point, leading - digits)
    | none => shortestFrom around leading left (digits + 1)

/-- The digits as a number and the power of ten of the last one. Seventeen always suffice. -/
def shortest (mantissa : Nat) (exponent : Int) : Nat × Int :=
  let (up, down) := scaled mantissa 1 (-exponent)
  shortestFrom (neighbourhood mantissa exponent) (leadingPower up down) 17 0

def positional (digits : Nat) (power : Int) : List Char :=
  let written := Nat.toDigits 10 digits
  if 0 ≤ power then written ++ List.replicate power.toNat '0' ++ ['.', '0']
  else
    let places := (-power).toNat
    let padded := List.replicate (places + 1 - written.length) '0' ++ written
    let whole := padded.length - places
    let fraction := (padded.drop whole).reverse.dropWhile (· = '0') |>.reverse
    padded.take whole ++ ['.'] ++ if fraction.isEmpty then ['0'] else fraction

def text : Binary64 → String
  | finite negative mantissa exponent =>
    let written :=
      if mantissa = 0 then ['0', '.', '0']
      else
        let (digits, power) := shortest mantissa exponent
        positional digits power
    String.ofList (if negative then '-' :: written else written)
  | infinite negative => if negative then "-inf" else "inf"
  | notANumber => "NaN"

end StandIn.Binary64
