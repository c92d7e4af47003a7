import StandIn.Text.Digit

/-!
Dates and times in TOML: a date, a time of day, or a date with a time of day after a `T` or a blank
and perhaps an offset from universal time. A second is never left out, and a date must exist.
-/

set_option autoImplicit false

namespace StandIn.Toml

def readFixed (count : Nat) (text : List Char) : Option (Nat × List Char) := do
  let digits ← (text.take count).mapM (Text.digitValue 10)
  if digits.length = count then some (Text.numberOf 10 digits, text.drop count) else none

def readMark (mark : Char) : List Char → Option (List Char)
  | [] => none
  | character :: rest => if character = mark then some rest else none

def isLeap (year : Nat) : Bool :=
  year % 4 == 0 && (year % 100 != 0 || year % 400 == 0)

def daysIn (year month : Nat) : Nat :=
  if month = 2 then (if isLeap year then 29 else 28)
  else if month = 4 ∨ month = 6 ∨ month = 9 ∨ month = 11 then 30
  else 31

def readDate (text : List Char) : Option (List Char) := do
  let (year, rest) ← readFixed 4 text
  let (month, rest) ← readFixed 2 (← readMark '-' rest)
  let (day, rest) ← readFixed 2 (← readMark '-' rest)
  if 1 ≤ month ∧ month ≤ 12 ∧ 1 ≤ day ∧ day ≤ daysIn year month then some rest else none

/-- Hours and minutes, as a time and an offset have them. -/
def readHours (text : List Char) : Option (List Char) := do
  let (hour, rest) ← readFixed 2 text
  let (minute, rest) ← readFixed 2 (← readMark ':' rest)
  if hour ≤ 23 ∧ minute ≤ 59 then some rest else none

def skipFraction : List Char → List Char
  | '.' :: digit :: rest =>
    if digit.isDigit then rest.dropWhile Char.isDigit else '.' :: digit :: rest
  | text => text

def readTime (text : List Char) : Option (List Char) := do
  let rest ← readHours text
  let (second, rest) ← readFixed 2 (← readMark ':' rest)
  if second ≤ 60 then some (skipFraction rest) else none

def skipOffset : List Char → List Char
  | [] => []
  | mark :: rest =>
    if mark = 'Z' || mark = 'z' then rest
    else if mark = '+' || mark = '-' then (readHours rest).getD (mark :: rest)
    else mark :: rest

def skipTime : List Char → List Char
  | [] => []
  | mark :: rest =>
    if mark = 'T' || mark = 't' || mark = ' ' then
      match readTime rest with
      | some last => skipOffset last
      | none => mark :: rest
    else mark :: rest

/-- What follows a date or a time at the front of a text. -/
def readMoment (text : List Char) : Option (List Char) :=
  match readDate text with
  | some rest => some (skipTime rest)
  | none => readTime text

end StandIn.Toml
