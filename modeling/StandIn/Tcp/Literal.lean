import StandIn.Tcp.Address
import StandIn.Text.Digit

/-!
Written internet addresses. Four numbers are decimal and have no leading zeros. Eight segments are
hexadecimal with at most four digits each; one run of zero segments may be left out as `::`, and
the last two segments may be written as four numbers.
-/

set_option autoImplicit false

namespace StandIn.Address

def takeDigits (base : Nat) : List Char → List Nat × List Char
  | [] => ([], [])
  | character :: rest =>
    match Text.digitValue base character with
    | none => ([], character :: rest)
    | some digit =>
      let (digits, others) := takeDigits base rest
      (digit :: digits, others)

def readByte (text : List Char) : Option (UInt8 × List Char) :=
  match takeDigits 10 text with
  | ([], _) => none
  | (0 :: _ :: _, _) => none
  | (digits, rest) =>
    let value := Text.numberOf 10 digits
    if value < 256 then some (UInt8.ofNat value, rest) else none

/-- A hexadecimal number of one to four digits. -/
def readSegment (text : List Char) : Option (UInt16 × List Char) :=
  match takeDigits 16 text with
  | ([], _) => none
  | (digits, rest) =>
    if digits.length ≤ 4 then
      some (UInt16.ofNat (Text.numberOf 16 digits), rest)
    else none

def expect (character : Char) : List Char → Option (List Char)
  | [] => none
  | first :: rest => if first = character then some rest else none

def readFour (text : List Char) : Option ((UInt8 × UInt8 × UInt8 × UInt8) × List Char) := do
  let (first, rest) ← readByte text
  let (second, rest) ← readByte (← expect '.' rest)
  let (third, rest) ← readByte (← expect '.' rest)
  let (fourth, rest) ← readByte (← expect '.' rest)
  return ((first, second, third, fourth), rest)

def joinBytes (high low : UInt8) : UInt16 :=
  UInt16.ofNat (high.toNat * 256 + low.toNat)

/-- The text after the colon that stands before every segment but the first. -/
def afterColon (isFirst : Bool) (text : List Char) : Option (List Char) :=
  if isFirst then some text else expect ':' text

/-- At most so many segments, whether four numbers ended them, and the rest. -/
def readSegments (isFirst : Bool) : Nat → List Char → List UInt16 × Bool × List Char
  | 0, text => ([], false, text)
  | left + 1, text =>
    match afterColon isFirst text with
    | none => ([], false, text)
    | some inner =>
      match if left = 0 then none else readFour inner with
      | some ((first, second, third, fourth), rest) =>
        ([joinBytes first second, joinBytes third fourth], true, rest)
      | none =>
        match readSegment inner with
        | none => ([], false, text)
        | some (segment, rest) =>
          let (others, numbers, last) := readSegments false left rest
          (segment :: others, numbers, last)

def readEight (text : List Char) : Option (List UInt16 × List Char) :=
  let (head, numbers, rest) := readSegments true 8 text
  if head.length = 8 then some (head, rest)
  else if numbers then none
  else do
    let rest ← expect ':' (← expect ':' rest)
    let (tail, _, last) := readSegments true (7 - head.length) rest
    return (head ++ List.replicate (8 - head.length - tail.length) 0 ++ tail, last)

def ofText? (text : String) : Option Address :=
  match readFour text.toList with
  | some ((first, second, third, fourth), []) => some (v4 first second third fourth)
  | _ =>
    match readEight text.toList with
    | some (segments, []) => some (v6 segments)
    | _ => none

end StandIn.Address
