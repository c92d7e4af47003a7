import StandIn.Toml.Draft
import StandIn.Toml.Moment
import StandIn.Toml.Numeral
import StandIn.Toml.Quotation

/-!
Reading TOML documents of version 1.0. A text either is a document or it is not; what is wrong with
one that is not is not told. Values are nested less than eighty deep, and a key has fewer than
eighty parts.
-/

set_option autoImplicit false

namespace StandIn.Toml

def nestingLimit : Nat := 80

/-- A reader of values: what it has read, and what follows that. -/
abbrev ReadValue := List Char → Option (Value × List Char)

def isBareKey (character : Char) : Bool :=
  character.isAlphanum || character = '-' || character = '_'

def readKeyPart : List Char → Option (String × List Char)
  | '"' :: rest => (readBasic .text rest).map fun (read, last) => (String.ofList read, last)
  | '\'' :: rest => (readLiteral rest).map fun (read, last) => (String.ofList read, last)
  | text =>
    let bare := text.takeWhile isBareKey
    if bare.isEmpty then none else some (String.ofList bare, text.dropWhile isBareKey)

/-- The parts of a key, with blanks around each; the first number bounds how many there are. -/
def readKeyParts : Nat → List Char → Option (List String × List Char)
  | 0, _ => none
  | left + 1, text => do
    let (part, rest) ← readKeyPart (skipSpace text)
    match skipSpace rest with
    | '.' :: others =>
      let (parts, last) ← readKeyParts left others
      return (part :: parts, last)
    | last => return ([part], last)

/-- A key as the tables to go through and the last part. -/
structure KeyPath where
  path : List String
  key : String

def KeyPath.ofParts? (parts : List String) : Option KeyPath :=
  parts.getLast?.map fun key => ⟨parts.dropLast, key⟩

def readKey (text : List Char) : Option (KeyPath × List Char) := do
  let (parts, rest) ← readKeyParts (nestingLimit - 1) text
  return (← KeyPath.ofParts? parts, rest)

def readWord (word : List Char) (value : Value) (text : List Char) : Option (Value × List Char) :=
  if word.isPrefixOf text then some (value, text.drop word.length) else none

def readScalar : ReadValue := fun text =>
  match text with
  | '"' :: _ | '\'' :: _ =>
    (readQuoted text).map fun (read, rest) => (.string (String.ofList read), rest)
  | 't' :: _ => readWord ['t', 'r', 'u', 'e'] (.boolean true) text
  | 'f' :: _ => readWord ['f', 'a', 'l', 's', 'e'] (.boolean false) text
  | _ =>
    match readMoment text with
    | some rest => some (.moment, rest)
    | none => readNumber text

/-- The items of an array up to its end; the number bounds how many there are. -/
def readItems (readItem : ReadValue) : Nat → List Char → Option (List Value × List Char)
  | 0, _ => none
  | left + 1, text =>
    match skipLines false text with
    | ']' :: rest => some ([], rest)
    | start => do
      let (item, rest) ← readItem start
      match skipLines false rest with
      | ']' :: last => return ([item], last)
      | ',' :: others =>
        let (items, last) ← readItems readItem left others
        return (item :: items, last)
      | _ => none

def readPair (readItem : ReadValue) (text : List Char) :
    Option ((KeyPath × Value) × List Char) := do
  let (key, rest) ← readKey text
  match rest with
  | '=' :: rest =>
    let (value, rest) ← readItem (skipSpace rest)
    return ((key, value), rest)
  | _ => none

def readPairs (readItem : ReadValue) :
    Nat → DraftEntries → List Char → Option (DraftEntries × List Char)
  | 0, _, _ => none
  | left + 1, entries, text => do
    let ((key, value), rest) ← readPair readItem text
    let entries ← entries.insertAt key.path key.key value .declared
    match skipSpace rest with
    | '}' :: last => return (entries, last)
    | ',' :: others => readPairs readItem left entries others
    | _ => none

def readInlineTable (readItem : ReadValue) : ReadValue := fun text =>
  match skipSpace text with
  | '}' :: rest => some (.table [], rest)
  | start => (readPairs readItem start.length [] start).map fun (entries, rest) =>
      (.table (Draft.entryValues entries), rest)

/-- A value in which arrays and tables are nested no deeper than the given number. -/
def readValue : Nat → ReadValue
  | 0, text => readScalar text
  | depth + 1, text =>
    match text with
    | '[' :: rest =>
      (readItems (readValue depth) rest.length rest).map fun (items, last) => (.array items, last)
    | '{' :: rest => readInlineTable (readValue depth) rest
    | _ => readScalar text

structure Page where
  entries : DraftEntries := []
  header : List String := []

namespace Page

def put (page : Page) (key : KeyPath) (value : Value) : Option Page := do
  let insert := DraftEntries.insertAt key.path key.key value
  let entries ← DraftEntries.changeAt .implied insert page.header .declared page.entries
  return { page with entries := entries }

def turn (page : Page) (key : KeyPath) (change : String → DraftEntries.Change) : Option Page := do
  let entries ← DraftEntries.changeAt .implied (change key.key) key.path .declared page.entries
  return ⟨entries, key.path ++ [key.key]⟩

end Page

def readHeader (page : Page) : List Char → Option (Page × List Char)
  | '[' :: rest => do
    let (key, rest) ← readKey rest
    match rest with
    | ']' :: ']' :: last => return (← page.turn key DraftEntries.extend, ← endLine last)
    | _ => none
  | text => do
    let (key, rest) ← readKey text
    match rest with
    | ']' :: last => return (← page.turn key DraftEntries.declare, ← endLine last)
    | _ => none

/-- One line, or an entry that goes over several. -/
def readEntry (page : Page) (text : List Char) : Option (Page × List Char) :=
  match text with
  | '[' :: rest => readHeader page rest
  | _ => do
    let ((key, value), rest) ← readPair (readValue (nestingLimit - 1)) text
    return (← page.put key value, ← endLine rest)

def readPage : Nat → Page → List Char → Option Page
  | 0, _, _ => none
  | left + 1, page, text =>
    match skipSpace text with
    | [] => some page
    | start =>
      match endLine start with
      | some rest => readPage left page rest
      | none => do
        let (page, rest) ← readEntry page start
        readPage left page rest

def byteOrderMark : Char := Char.ofNat 0xFEFF

/-- The entries of the document that a text is, if it is one. -/
def ofText? (text : String) : Option Entries := do
  let characters := match text.toList with
    | first :: rest => if first = byteOrderMark then rest else first :: rest
    | [] => []
  let page ← readPage (characters.length + 1) {} characters
  return Draft.entryValues page.entries

end StandIn.Toml
