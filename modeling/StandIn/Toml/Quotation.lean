import StandIn.Text.Digit
import StandIn.Toml.Space

/-!
Quoted text in TOML. Double quotes allow escapes, single quotes do not; three quotes of either kind
allow line ends, and then one or two quotes may stand inside the text or directly before its end.
-/

set_option autoImplicit false

namespace StandIn.Toml

abbrev Quotation := Option (List Char × List Char)

def Quotation.push (character : Char) : Quotation → Quotation :=
  Option.map fun (read, rest) => (character :: read, rest)

/-- Where the reader of a text with escapes stands. -/
inductive Place where
  | text
  /-- After a backslash. -/
  | escape
  /-- In a code with so many digits to come, and its value so far. -/
  | code (digits value : Nat)
  /-- After a backslash that joins lines, and whether a line end has been met. -/
  | gap (ended : Bool)

def shortEscape : Char → Option Char
  | 'b' => some '\x08'
  | 'f' => some '\x0c'
  | 'n' => some '\n'
  | 'r' => some '\r'
  | 't' => some '\t'
  | '"' => some '"'
  | '\\' => some '\\'
  | _ => none

def scalar? (code : Nat) : Option Char :=
  if code.isValidChar then some (Char.ofNat code) else none

def readBasic : Place → List Char → Quotation
  | _, [] => none
  | .text, character :: rest =>
    if character = '"' then some ([], rest)
    else if character = '\\' then readBasic .escape rest
    else if isPrinting character then (readBasic .text rest).push character
    else none
  | .escape, character :: rest =>
    if character = 'u' then readBasic (.code 4 0) rest
    else if character = 'U' then readBasic (.code 8 0) rest
    else (shortEscape character).bind (readBasic .text rest).push
  | .code digits value, character :: rest =>
    (Text.digitValue 16 character).bind fun digit =>
      let value := value * 16 + digit
      if digits ≤ 1 then (scalar? value).bind (readBasic .text rest).push
      else readBasic (.code (digits - 1) value) rest
  | .gap _, _ :: _ => none

/-- The end of a text in three quotes: up to two further quotes belong to the text. -/
def closing (quote : Char) : List Char → List Char × List Char
  | first :: second :: rest =>
    if first = quote then
      if second = quote then ([quote, quote], rest) else ([quote], second :: rest)
    else ([], first :: second :: rest)
  | [first] => if first = quote then ([quote], []) else ([], [first])
  | [] => ([], [])

def twoMore (quote : Char) : List Char → Bool
  | first :: second :: _ => first = quote && second = quote
  | _ => false

/-- The text in three double quotes, after its opening and the line end there. -/
def readLongBasic : Place → List Char → Quotation
  | _, [] => none
  | .escape, character :: rest =>
    if character = 'u' then readLongBasic (.code 4 0) rest
    else if character = 'U' then readLongBasic (.code 8 0) rest
    else if isSpace character then readLongBasic (.gap false) rest
    else if character = '\n' then readLongBasic (.gap true) rest
    else if character = '\r' && rest.head? == some '\n' then readLongBasic (.gap false) rest
    else (shortEscape character).bind (readLongBasic .text rest).push
  | .code digits value, character :: rest =>
    (Text.digitValue 16 character).bind fun digit =>
      let value := value * 16 + digit
      if digits ≤ 1 then (scalar? value).bind (readLongBasic .text rest).push
      else readLongBasic (.code (digits - 1) value) rest
  | .gap false, character :: rest =>
    if isSpace character then readLongBasic (.gap false) rest
    else if character = '\n' then readLongBasic (.gap true) rest
    else if character = '\r' && rest.head? == some '\n' then readLongBasic (.gap false) rest
    else none
  | place, character :: rest =>
    let inGap := match place with
      | .gap _ => true
      | _ => false
    if inGap && (isSpace character || character = '\n') then readLongBasic (.gap true) rest
    else if character = '\r' then
      if rest.head? == some '\n' then readLongBasic place rest else none
    else if character = '"' then
      if twoMore '"' rest then some (closing '"' (rest.drop 2))
      else (readLongBasic .text rest).push character
    else if character = '\\' then readLongBasic .escape rest
    else if isPrinting character || character = '\n' then
      (readLongBasic .text rest).push character
    else none

def readLiteral : List Char → Quotation
  | [] => none
  | character :: rest =>
    if character = '\'' then some ([], rest)
    else if isPrinting character then (readLiteral rest).push character
    else none

def readLongLiteral : List Char → Quotation
  | [] => none
  | character :: rest =>
    if character = '\'' && twoMore '\'' rest then some (closing '\'' (rest.drop 2))
    else if character = '\r' then
      if rest.head? == some '\n' then readLongLiteral rest else none
    else if isPrinting character || character = '\n' then
      (readLongLiteral rest).push character
    else none

/-- A line end directly after the opening of a long text does not belong to it. -/
def afterOpening (text : List Char) : List Char :=
  (lineEnd? text).getD text

def readQuoted : List Char → Quotation
  | '"' :: '"' :: '"' :: rest => readLongBasic .text (afterOpening rest)
  | '"' :: rest => readBasic .text rest
  | '\'' :: '\'' :: '\'' :: rest => readLongLiteral (afterOpening rest)
  | '\'' :: rest => readLiteral rest
  | _ => none

end StandIn.Toml
