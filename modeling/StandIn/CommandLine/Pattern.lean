import StandIn.CommandLine.Pattern.Nesting
import StandIn.Text.Alphanumeric
import StandIn.Text.Blank
import StandIn.Text.Digit
import StandIn.Text.Numeral

/-!
Patterns for the values of fields. Only their form is of interest: nothing is ever matched here. A
pattern is a regular expression over the characters of all scripts. No table of scripts or of cases
is at hand, so what would need one has no form: classes of digits, words and blanks, and characters
that stand for either case. Boundaries of words have a form, but no automaton finds them. Bytes
instead of characters may be asked for in a group; a class holds only ASCII then.

A text is read one character after the other, and each time with a look at what follows.
-/

set_option autoImplicit false

namespace StandIn.Pattern

inductive Fault where
  | malformed
  /-- It asks for boundaries of words of all scripts. -/
  | wordBoundary
deriving DecidableEq

def Fault.message : Fault → String
  | malformed => "error building NFA"
  | wordBoundary => "unsupported regex feature for DFAs: cannot build DFAs for regexes with " ++
      "Unicode word boundaries; switch to ASCII word boundaries, or heuristically enable " ++
      "Unicode word boundaries or use a different regex engine"

/-- What the characters of a group stand for. -/
structure Mode where
  anyCase : Bool := false
  allScripts : Bool := true
  /-- Blanks and comments do not count. -/
  spaced : Bool := false

def Mode.admits (mode : Mode) : Bool :=
  !(mode.anyCase && mode.allScripts)

def Mode.admitsMember (mode : Mode) (character : Char) : Bool :=
  if mode.allScripts then !mode.anyCase else character.toNat < 0x80

inductive Site where
  | sequence
  | member
  | rangeEnd (first : Char)

inductive Phase where
  /-- In a sequence: whether there is an item to repeat, and whether it has just been repeated. -/
  | sequence (repeatable repeated : Bool)
  | groupOpened
  | groupMarked
  | groupNamed
  | groupAngle
  | groupName (read : List Char)
  /-- The flags of a group: what holds with those read, which were read, whether they are taken
  back, and whether the sign for that came last. -/
  | flags (mode : Mode) (read : List Char) (negated dangling : Bool)
  | classOpened
  | classNegated
  | classDashes
  /-- Where a member of a class may begin. -/
  | member
  /-- After a member of a class: the character with which a range can begin. -/
  | afterMember (first : Option Char)
  | range (first : Char)
  /-- Within a sign of more than one character, of which so many are left. -/
  | within (left : Nat)
  | escape (site : Site)
  /-- A character by its code: how many digits it has, how many are left, and the code so far. -/
  | code (site : Site) (digits left value : Nat)

def Phase.isBetween : Phase → Bool
  | .sequence _ _ | .groupOpened | .classOpened | .classNegated | .classDashes | .member
  | .afterMember _ | .range _ | .code _ _ _ _ => true
  | _ => false

def Phase.afterBlank : Phase → Phase
  | .sequence repeatable _ => .sequence repeatable false
  | phase => phase

structure State where
  mode : Mode := {}
  layer : Layer := {}
  /-- The open groups and classes around, each with the mode that holds outside. -/
  outer : List (Layer × Mode) := []
  /-- How many classes are open, one within the other. -/
  classes : Nat := 0
  names : List (List Char) := []
  phase : Phase := .sequence false false
  inComment : Bool := false
  /-- Whether a boundary of words of all scripts was asked for. -/
  seeksWords : Bool := false

namespace State

def next (state : State) (phase : Phase) : Option State :=
  some { state with phase := phase }

def part (state : State) : State :=
  { state with layer := state.layer.add 0 }

def afterItem (state : State) : Option State :=
  state.part.next (.sequence true false)

def enter (state : State) (mode : Mode) (phase : Phase) : State :=
  { state with
    mode := mode, layer := {}, outer := (state.layer, state.mode) :: state.outer, phase := phase }

def leave (state : State) (phase : Phase) : Option State :=
  match state.outer with
  | [] => none
  | (layer, mode) :: outer =>
    some { state with
      mode := mode, layer := state.layer.enclose layer, outer := outer, phase := phase }

def beginGroup (state : State) (mode : Mode) : State :=
  state.enter mode (.sequence false false)

def endGroup (state : State) : Option State :=
  state.leave (.sequence true false)

def beginClass (state : State) : State :=
  { state with classes := state.classes + 1 }.enter state.mode .classOpened

def endClass (state : State) : Option State :=
  { state with classes := state.classes - 1 }.leave
    (if state.classes ≤ 1 then .sequence true false else .member)

def afterEscaped (state : State) (site : Site) (character : Char) : Option State :=
  match site with
  | .sequence => if state.mode.admits then state.afterItem else none
  | .member =>
    if state.mode.admitsMember character then state.part.next (.afterMember (some character))
    else none
  | .rangeEnd first =>
    if first ≤ character && state.mode.admitsMember character then state.next .member else none

/-- After an escape that stands for a place between characters. -/
def afterPlace (state : State) (site : Site) : Option State :=
  match site with
  | .sequence => state.afterItem
  | _ => none

/-- After an escape that stands for one of several characters. -/
def afterSeveral (state : State) (site : Site) : Option State :=
  match site with
  | .sequence => state.afterItem
  | .member => state.part.next (.afterMember none)
  | .rangeEnd _ => none

def afterBoundary (state : State) (site : Site) : Option State :=
  { state with seeksWords := state.seeksWords || state.mode.allScripts }.afterPlace site

def inSequence (state : State) (repeatable repeated : Bool) (character : Char) : Option State :=
  match character with
  | '?' | '*' | '+' =>
    if repeated && character = '?' then state.next (.sequence true false)
    else if repeatable then
      { state with layer := state.layer.repeatLast }.next (.sequence true true)
    else none
  | '(' => state.next .groupOpened
  | ')' => state.endGroup
  | '|' => { state with layer := state.layer.alternate }.next (.sequence false false)
  | '[' => some state.beginClass
  | '\x7b' => none
  | '\\' => state.next (.escape .sequence)
  | '.' => if state.mode.allScripts then state.afterItem else none
  | '^' | '$' => state.afterItem
  | _ => if state.mode.admits then state.afterItem else none

/-- The name of a group. It begins with a letter or an underscore. -/
def inName (state : State) (read : List Char) (character : Char) : Option State :=
  let fits :=
    if read.isEmpty then Text.isAlphanumeric character && !Text.isNumeral character
    else Text.isAlphanumeric character || ['.', '[', ']'].contains character
  if character = '>' then
    if read.isEmpty || state.names.contains read then none
    else some ({ state with names := read :: state.names }.beginGroup state.mode)
  else if fits || character = '_' then state.next (.groupName (read ++ [character]))
  else none

def inFlags (state : State) (mode : Mode) (read : List Char) (negated dangling : Bool)
    (character : Char) : Option State :=
  match character with
  | '-' => if negated then none else state.next (.flags mode read true true)
  | ':' => if dangling then none else some (state.beginGroup mode)
  | ')' =>
    if dangling || read.isEmpty then none
    else { state.part with mode := mode }.next (.sequence false false)
  | other =>
    if other ∉ ['i', 'm', 's', 'U', 'u', 'R', 'x'] || other ∈ read then none
    else
      let changed := match other with
        | 'i' => { mode with anyCase := !negated }
        | 'u' => { mode with allScripts := !negated }
        | 'x' => { mode with spaced := !negated }
        | _ => mode
      state.next (.flags changed (other :: read) negated false)

/-- Two equal signs of these in a row stand between classes. -/
def isOperator (character : Char) : Bool :=
  ['&', '-', '~'].contains character

def asciiClasses : List String :=
  ["alnum", "alpha", "ascii", "blank", "cntrl", "digit", "graph", "lower", "print", "punct",
    "space", "upper", "word", "xdigit"]

/-- How many characters the rest of a named class of ASCII has after its opening bracket, and
whether all other characters are meant. -/
def asciiClass? (rest : List Char) : Option (Nat × Bool) := do
  let ':' :: inside := rest | none
  let negated := inside.head? = some '^'
  let name := (if negated then inside.drop 1 else inside).takeWhile (· ≠ ':')
  let length := name.length + if negated then 2 else 1
  if String.ofList name ∈ asciiClasses && (rest.drop length).take 2 = [':', ']'] then
    some (length + 2, negated)
  else none

def inClass (state : State) (character : Char) (rest : List Char) : Option State :=
  match character with
  | '[' =>
    match asciiClass? rest with
    | none => some state.beginClass
    | some (length, negated) =>
      if if state.mode.allScripts then state.mode.anyCase else negated then none
      else state.part.next (.within length)
  | ']' => state.endClass
  | '\\' => state.next (.escape .member)
  | other =>
    if isOperator other && rest.head? = some other then
      { state with layer := state.layer.operate }.next (.within 1)
    else if state.mode.admitsMember other then state.part.next (.afterMember (some other))
    else none

/-- The beginning of a class, where dashes and a closing bracket stand for themselves. -/
def inClassStart (state : State) (character : Char) (rest : List Char) : Option State :=
  match character with
  | '-' => if state.mode.admitsMember character then state.part.next .classDashes else none
  | ']' => if state.mode.admitsMember character then state.part.next .member else none
  | other => state.inClass other rest

/-- What seems to follow a dash: a comment is taken to be no longer than its sign. -/
def afterDash (state : State) (rest : List Char) : Option Char :=
  if state.mode.spaced then
    let seen := match rest.dropWhile Text.isBlank with
      | '#' :: comment => comment.dropWhile Text.isBlank
      | other => other
    seen.head? <|> rest.head?
  else rest.head?

/-- After a member of a class, which a dash makes the beginning of a range, unless the dash is the
last member of the class or half an operator. -/
def inRange (state : State) (first : Option Char) (character : Char) (rest : List Char) :
    Option State :=
  let follower := state.afterDash rest
  if character = '-' && follower ≠ some ']' && follower ≠ some '-' then
    first.bind fun first => state.next (.range first)
  else state.inClass character rest

def inEscape (state : State) (site : Site) (character : Char) : Option State :=
  match character with
  | 'x' => state.next (.code site 2 2 0)
  | 'u' => state.next (.code site 4 4 0)
  | 'U' => state.next (.code site 8 8 0)
  | 'a' => state.afterEscaped site '\x07'
  | 'f' => state.afterEscaped site '\x0c'
  | 't' => state.afterEscaped site '\t'
  | 'n' => state.afterEscaped site '\n'
  | 'r' => state.afterEscaped site '\r'
  | 'v' => state.afterEscaped site '\x0b'
  | 'A' | 'z' => state.afterPlace site
  | 'b' | 'B' | '<' | '>' => state.afterBoundary site
  | 'd' | 's' | 'w' => if state.mode.allScripts then none else state.afterSeveral site
  | other =>
    if other.isAlphanum || 0x80 ≤ other.toNat then none else state.afterEscaped site other

/-- A code of two digits is that of a byte, if not of a character of any script. -/
def inCode (state : State) (site : Site) (digits left value : Nat) (character : Char) :
    Option State :=
  match Text.digitValue 16 character with
  | none => none
  | some digit =>
    let value := value * 16 + digit
    if 1 < left then state.next (.code site digits (left - 1) value)
    else if digits = 2 && 0x80 ≤ value && !state.mode.allScripts then none
    else if Nat.isValidChar value then state.afterEscaped site (Char.ofNat value)
    else none

def read (state : State) (character : Char) (rest : List Char) : Option State :=
  match state.phase with
  | .sequence repeatable repeated => state.inSequence repeatable repeated character
  | .groupOpened =>
    if character = '?' then state.next .groupMarked
    else (state.beginGroup state.mode).inSequence false false character
  | .groupMarked =>
    match character with
    | 'P' => state.next .groupNamed
    | '<' => state.next .groupAngle
    | other => state.inFlags state.mode [] false false other
  | .groupNamed => if character = '<' then state.next .groupAngle else none
  | .groupAngle => state.inName [] character
  | .groupName read => state.inName read character
  | .flags mode read negated dangling => state.inFlags mode read negated dangling character
  | .classOpened =>
    if character = '^' then (if state.mode.allScripts then state.next .classNegated else none)
    else state.inClassStart character rest
  | .classNegated => state.inClassStart character rest
  | .classDashes =>
    if character = '-' then state.part.next .classDashes else state.inClass character rest
  | .member => state.inClass character rest
  | .afterMember first => state.inRange first character rest
  | .range first =>
    if character = '\\' then state.next (.escape (.rangeEnd first))
    else state.afterEscaped (.rangeEnd first) character
  | .within left => state.next (if left ≤ 1 then .member else .within (left - 1))
  | .escape site => state.inEscape site character
  | .code site digits left value => state.inCode site digits left value character

def step (state : State) (character : Char) (rest : List Char) : Option State :=
  if state.inComment then some { state with inComment := character ≠ '\n' }
  else if state.mode.spaced && state.phase.isBetween &&
      (character = '#' || Text.isBlank character) then
    some { state with phase := state.phase.afterBlank, inComment := character = '#' }
  else state.read character rest

def isComplete (state : State) : Bool :=
  match state.phase with
  | .sequence _ _ => state.outer.isEmpty && state.layer.height ≤ heightLimit
  | _ => false

end State

def readFrom (state : State) : List Char → Option State
  | [] => some state
  | character :: rest => (state.step character rest).bind fun next => readFrom next rest

/-- What keeps a text from being a pattern. A flaw in its form counts before a boundary of words. -/
def fault? (text : List Char) : Option Fault :=
  match readFrom {} text with
  | none => some .malformed
  | some state =>
    if !state.isComplete then some .malformed
    else if state.seeksWords then some .wordBoundary
    else none

end StandIn.Pattern
