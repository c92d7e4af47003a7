import StandIn.CommandLine.Pattern
import StandIn.Narration
import StandIn.Number.Written
import StandIn.Text.Blank
import StandIn.Text.Span

/-!
Which lines are shown. A filter is a list of directives between commas. A directive is a level, a
target, or a target and a level after an equals sign; a target stands for all speakers whose names
begin with it, and of the directives that fit a line the most specific decides. A directive for
spans fits no line, since nothing here is told inside a span.
-/

set_option autoImplicit false

namespace StandIn

/-- The least grave level that is shown, if any level is. -/
abbrev Threshold := Option Level

def Threshold.shows (threshold : Threshold) (level : Level) : Bool :=
  match threshold with
  | none => false
  | some least => least.rank ≤ level.rank

structure Directive where
  /-- Without a target a directive fits every speaker. -/
  target : Option String := none
  /-- A name that a line must have among its values. -/
  field : Option String := none
  /-- Whether it is for spans, or for values of fields, and so fits no line. -/
  spansOnly : Bool := false
  threshold : Threshold := some .trace
deriving DecidableEq

inductive DirectiveFault where
  | malformed
  | badLevel
  | badField (fault : Pattern.Fault)
deriving DecidableEq

def DirectiveFault.message : DirectiveFault → String
  | malformed => "invalid filter directive"
  | badLevel => "error parsing level filter: expected one of \"off\", \"error\", \"warn\", " ++
      "\"info\", \"debug\", \"trace\", or a number 0-5"
  | badField fault => "invalid field filter: " ++ fault.message

namespace Directive

def threshold? (word : List Char) : Option Threshold :=
  match Text.integer? (String.ofList word) with
  | some 0 => if word.head? = some '-' then none else some none
  | some 1 => some (some .error)
  | some 2 => some (some .warn)
  | some 3 => some (some .info)
  | some 4 => some (some .debug)
  | some 5 => some (some .trace)
  | some _ => none
  | none =>
    match String.ofList (word.map Char.toLower) with
    | "" => some (some .error)
    | "off" => some none
    | "error" => some (some .error)
    | "warn" => some (some .warn)
    | "info" => some (some .info)
    | "debug" => some (some .debug)
    | "trace" => some (some .trace)
    | _ => none

/-- The level after an equals sign; an empty one lets everything through. -/
def withLevel (directive : Directive) (word : List Char) : Except DirectiveFault Directive :=
  if word.isEmpty then .ok directive
  else
    match threshold? word with
    | some threshold => .ok { directive with threshold := threshold }
    | none => .error .badLevel

/-- A directive without any sign in it is a level if it can be one, else a target. -/
def ofWord (word : List Char) : Directive :=
  match threshold? word with
  | some threshold => { threshold := threshold }
  | none => { target := some (String.ofList word) }

/-- A name, or a name and a value, which is for spans only and must be a number or a pattern. What
stands behind a second equals sign does not count. -/
def withField (directive : Directive) (field : List Char) : Except DirectiveFault Directive :=
  let named := { directive with field := some (String.ofList (field.takeWhile (· ≠ '='))) }
  match field.dropWhile (· ≠ '=') with
  | [] => .ok named
  | _ :: value =>
    let value := value.takeWhile (· ≠ '=')
    match (if Text.isWrittenNumber value then none else Pattern.fault? value) with
    | none => .ok { named with spansOnly := true }
    | some fault => .error (.badField fault)

/-- Letters and digits of any script begin a target, and so do three signs. -/
def startsTarget (character : Char) : Bool :=
  character = '-' || character = ':' || character = '_' || Text.isAlphanumeric character

/-- A directive is read without the blanks around it, but its parts are cut out of the whole piece,
blanks included, at the places where they were found. Places count bytes. -/
structure Reader where
  piece : List Char
  place : Nat

namespace Reader

def advance (reader : Reader) (character : Char) : Reader :=
  { reader with place := reader.place + character.utf8Size }

def since (reader : Reader) (start : Nat) : List Char :=
  Text.takeBytes (reader.place - start) (Text.dropBytes start reader.piece)

def behind (reader : Reader) : List Char :=
  Text.dropBytes (reader.place + 1) reader.piece

def afterSpan (reader : Reader) (directive : Directive) :
    List Char → Except DirectiveFault Directive
  | [] => .ok directive
  | '=' :: _ => directive.withLevel reader.behind
  | _ => .error .malformed

def readField (reader : Reader) (start : Nat) (directive : Directive) :
    List Char → Except DirectiveFault Directive
  | [] => .error .malformed
  | character :: rest =>
    if character = '\x7d' then
      if reader.place = start then .error .malformed
      else
        match directive.withField (reader.since start), rest with
        | .error fault, _ => .error fault
        | .ok found, ']' :: last => ((reader.advance character).advance ']').afterSpan found last
        | .ok _, _ => .error .malformed
    else (reader.advance character).readField start directive rest

def readSpan (reader : Reader) (start : Nat) (directive : Directive) :
    List Char → Except DirectiveFault Directive
  | [] => .error .malformed
  | ']' :: rest => (reader.advance ']').afterSpan { directive with spansOnly := true } rest
  | character :: rest =>
    let after := reader.advance character
    if character = '\x7b' then
      after.readField after.place { directive with spansOnly := start < reader.place } rest
    else after.readSpan start directive rest

def readTarget (reader : Reader) : List Char → Except DirectiveFault Directive
  | [] => .ok (ofWord reader.piece)
  | character :: rest =>
    let after := reader.advance character
    let target : Directive := { target := some (String.ofList (reader.since 0)) }
    if character = '=' then target.withLevel reader.behind
    else if character = '[' then after.readSpan after.place target rest
    else after.readTarget rest

end Reader

def ofText (piece : List Char) : Except DirectiveFault Directive :=
  match Text.trimmed piece with
  | [] => .error .malformed
  | '[' :: rest => Reader.readSpan ⟨piece, 1⟩ 1 {} rest
  | first :: rest =>
    if startsTarget first then Reader.readTarget ⟨piece, 0⟩ (first :: rest)
    else .error .malformed

def fits (directive : Directive) (line : Narration) : Bool :=
  !directive.spansOnly &&
    directive.target.all (fun target => target.toList.isPrefixOf line.speaker.toList) &&
    directive.field.all fun name => name = "message" || (line.fields.lookup name).isSome

/-- How specific a directive is, as numbers of which the first that differs decides: the length of
the target, then whether a field is named, then the characters of both. -/
def weight (directive : Directive) : List Nat :=
  let length := (directive.target.map fun target => target.utf8ByteSize + 1).getD 0
  let codes (text : Option String) := (text.getD "").toList.map Char.toNat
  [length, directive.field.toList.length] ++ codes directive.target ++ codes directive.field

def isBefore : List Nat → List Nat → Bool
  | [], second => !second.isEmpty
  | _ :: _, [] => false
  | first :: rest, second :: others => first < second || (first = second && isBefore rest others)

end Directive

abbrev LogFilter := List Directive

namespace LogFilter

/-- The most specific directive that fits the line, the last of those that say the same. -/
def deciding (filter : LogFilter) (line : Narration) : Option Directive :=
  filter.foldl (fun chosen directive =>
    if !directive.fits line then chosen
    else
      match chosen with
      | none => some directive
      | some other =>
        if Directive.isBefore directive.weight other.weight then some other
        else some directive) none

def shows (filter : LogFilter) (line : Narration) : Bool :=
  match filter.deciding line with
  | none => false
  | some directive => directive.threshold.shows line.level

/-- The pieces of a text between commas, without empty ones. -/
def pieces (current : List Char) : List Char → List (List Char)
  | [] => if current.isEmpty then [] else [current]
  | ',' :: rest => if current.isEmpty then pieces [] rest else current :: pieces [] rest
  | character :: rest => pieces (current ++ [character]) rest

def strict? (text : String) : Option LogFilter :=
  (pieces [] text.toList).mapM fun piece => (Directive.ofText piece).toOption

def complaint (piece : List Char) (fault : DirectiveFault) : String :=
  "ignoring `" ++ String.ofList piece ++ "`: " ++ fault.message

/-- The right directives of a text, and a complaint about each of the others. -/
def lenient (text : String) : LogFilter × List String :=
  (pieces [] text.toList).foldr (fun piece (directives, complaints) =>
    match Directive.ofText piece with
    | .ok directive => (directive :: directives, complaints)
    | .error fault => (directives, complaint piece fault :: complaints)) ([], [])

/-- The filter of the environment if there is one and it is right, else that of the arguments. -/
def choose (environment : Option String) (logLevel : String) : LogFilter × List String :=
  match environment.bind strict? with
  | some filter => (filter, [])
  | none => lenient logLevel

end LogFilter
end StandIn
