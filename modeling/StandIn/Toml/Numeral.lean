import StandIn.Number.Range
import StandIn.Text.Digit
import StandIn.Toml.Value

/-!
Numbers in TOML. Digits may be grouped by single underscores, a decimal number has no leading
zeros, and an integer has 64 bits with sign. A float has a fraction or an exponent or both; one
that is too great is refused, but a negative one is taken for minus infinity.
-/

set_option autoImplicit false

namespace StandIn.Toml

/-- One digit or more, with single underscores between them. -/
def readDigits (base : Nat) : List Char → Option (List Nat × List Char)
  | [] => none
  | character :: rest =>
    (Text.digitValue base character).bind fun digit =>
      let more (others : Option (List Nat × List Char)) :=
        others.map fun (digits, last) => (digit :: digits, last)
      match rest with
      | [] => some ([digit], [])
      | '_' :: others => more (readDigits base others)
      | next :: others =>
        if (Text.digitValue base next).isSome then more (readDigits base (next :: others))
        else some ([digit], next :: others)

def takeSign : List Char → Bool × List Char
  | '-' :: rest => (true, rest)
  | '+' :: rest => (false, rest)
  | text => (false, text)

/-- A whole number: zero alone, or digits that do not begin with zero. -/
def readWhole : List Char → Option (List Nat × List Char)
  | '0' :: rest => some ([0], rest)
  | text => readDigits 10 text

def asInteger (negative : Bool) (base : Nat) (digits : List Nat) : Option Value :=
  let magnitude : Int := Text.numberOf base digits
  let number := if negative then -magnitude else magnitude
  if isSigned64 number then some (.integer number) else none

def readInteger : List Char → Option (Value × List Char)
  | '0' :: 'x' :: rest => do
    let (digits, rest) ← readDigits 16 rest
    return (← asInteger false 16 digits, rest)
  | '0' :: 'o' :: rest => do
    let (digits, rest) ← readDigits 8 rest
    return (← asInteger false 8 digits, rest)
  | '0' :: 'b' :: rest => do
    let (digits, rest) ← readDigits 2 rest
    return (← asInteger false 2 digits, rest)
  | text => do
    let (negative, unsigned) := takeSign text
    let (digits, rest) ← readWhole unsigned
    return (← asInteger negative 10 digits, rest)

def readFraction : List Char → Option (List Nat × List Char)
  | '.' :: rest => readDigits 10 rest
  | text => some ([], text)

def readExponent : List Char → Option (Option Int × List Char)
  | letter :: rest =>
    if letter = 'e' || letter = 'E' then do
      let (negative, unsigned) := takeSign rest
      let (digits, rest) ← readDigits 10 unsigned
      let magnitude : Int := Text.numberOf 10 digits
      return (some (if negative then -magnitude else magnitude), rest)
    else some (none, letter :: rest)
  | [] => some (none, [])

def readFiniteFloat (text : List Char) : Option (Value × List Char) := do
  let (negative, unsigned) := takeSign text
  let (whole, rest) ← readWhole unsigned
  let (fraction, rest) ← readFraction rest
  let (power, rest) ← readExponent rest
  if fraction.isEmpty && power.isNone then none
  else
    let number := Binary64.ofDecimal negative (Text.numberOf 10 (whole ++ fraction))
      (power.getD 0 - fraction.length)
    if number = .infinite false then none else some (.float number, rest)

def readSpecialFloat (text : List Char) : Option (Value × List Char) :=
  match takeSign text with
  | (negative, 'i' :: 'n' :: 'f' :: rest) => some (.float (.infinite negative), rest)
  | (_, 'n' :: 'a' :: 'n' :: rest) => some (.float .notANumber, rest)
  | _ => none

/-- A float if the text begins with one, else an integer. -/
def readNumber (text : List Char) : Option (Value × List Char) :=
  (readFiniteFloat text).or ((readSpecialFloat text).or (readInteger text))

end StandIn.Toml
