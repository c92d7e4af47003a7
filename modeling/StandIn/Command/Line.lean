import StandIn.Command
import StandIn.Fault
import StandIn.Number.Range
import StandIn.Text.Blank
import StandIn.Text.Line
import StandIn.Text.Quoted

/-!
Script lines. A line that begins with a number sign or holds only blanks is no command. Any other
line is split into words, and its first word says what the others must be.
-/

set_option autoImplicit false

namespace StandIn.Command

inductive LineFault where
  | wantsDevice (verb : String)
  | wantsSeconds (verb : String)
  | notWholeSeconds (word : String)
  | unknownVerb (word : String)
deriving DecidableEq

def LineFault.message : LineFault → String
  | wantsDevice verb => "expected `" ++ verb ++ " <type> <name>`"
  | wantsSeconds verb => "expected `" ++ verb ++ " <seconds>`"
  | notWholeSeconds word => "expected a whole number of seconds, found " ++ Text.quoted word
  | unknownVerb word => "unknown command " ++ Text.quoted word

def isComment (line : String) : Bool :=
  line.toList.head? == some '#'

/-- Seconds are a written integer of 64 bits with sign, and a negative one is nonsense. -/
def seconds (number : Nat) (action : String) (word : String) : Except Fault Nat :=
  match Text.integer? word with
  | none => .error (.scriptLine number (LineFault.notWholeSeconds word).message)
  | some value =>
    if !isSigned64 value then
      .error (.scriptLine number (LineFault.notWholeSeconds word).message)
    else if value < 0 then
      .error (.invalidArgument
        ("it's nonsense to " ++ action ++ " for " ++ Text.ofInt value ++ "s"))
    else .ok value.toNat

def ofWords (number : Nat) : List String → Except Fault (Option Command)
  | [] => .ok none
  | ["enable", kind, name] => .ok (some (enable ⟨kind, name⟩))
  | ["disable", kind, name] => .ok (some (disable ⟨kind, name⟩))
  | ["dieHorribly", word] => (seconds number "die" word).map fun value => some (dieHorribly value)
  | ["sleep", word] => (seconds number "sleep" word).map fun value => some (sleep value)
  | verb :: _ =>
    if verb = "enable" ∨ verb = "disable" then
      .error (.scriptLine number (LineFault.wantsDevice verb).message)
    else if verb = "dieHorribly" ∨ verb = "sleep" then
      .error (.scriptLine number (LineFault.wantsSeconds verb).message)
    else .error (.scriptLine number (LineFault.unknownVerb verb).message)

/-- The command on a line, if there is one; the number is for the fault text only. -/
def ofLine (number : Nat) (line : String) : Except Fault (Option Command) :=
  if isComment line || Text.allBlank line then .ok none else ofWords number (Text.words line)

def ofLines (number : Nat) : List String → List (Except Fault (Option Command))
  | [] => []
  | line :: rest => ofLine number line :: ofLines (number + 1) rest

end StandIn.Command
