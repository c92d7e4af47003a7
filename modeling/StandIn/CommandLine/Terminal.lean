import StandIn.CommandLine.Launch
import StandIn.CommandLine.LogFilter

/-!
What the program writes: a banner, a line for everything that is told and passes the filter, and a
word about why it failed. Characters that could steer a terminal are shown by their codes.
-/

set_option autoImplicit false

namespace StandIn.CommandLine

def ruler : String := "=================================="

def banner : List String := [ruler, "  FREEDM Fake Device Controller", ruler]

def versionLine : String := "controller_cli 0.1.0"

def help : List String :=
  ["Scriptable fake device controller for exercising a DGI", "",
    "Usage: controller_cli [OPTIONS]", "", "Options:",
    "  -c, --config <CONFIG>        Controller configuration file [default: controller.cfg]",
    "  -s, --script <SCRIPT>        Script of enable/disable/dieHorribly/sleep commands " ++
      "[default: dsp-script.txt]",
    "      --log-level <LOG_LEVEL>  Log filter used when RUST_LOG is not set [default: info]",
    "      --disconnect-on-exit     Politely disconnect from the DGI once the script is exhausted",
    "  -h, --help                   Print help",
    "  -V, --version                Print version"]

/-- Shows the characters by which a text could steer a terminal. -/
def harmless (character : Char) : List Char :=
  match character with
  | '\x07' => ['\\', 'x', '0', '7']
  | '\x08' => ['\\', 'x', '0', '8']
  | '\x0c' => ['\\', 'x', '0', 'c']
  | '\x1b' => ['\\', 'x', '1', 'b']
  | '\x7f' => ['\\', 'x', '7', 'f']
  | other =>
    if 0x80 ≤ other.toNat ∧ other.toNat ≤ 0x9F then Text.codeEscape other else [other]

def logText (line : Narration) : String :=
  line.level.text ++ " " ++ line.speaker ++ ": " ++
    String.ofList (line.message.toList.flatMap harmless) ++
    String.join (line.fields.map Narration.fieldText)

def failureLine (failure : Failure) : String :=
  "[ERROR] " ++ failure.message

def UsageFault.report : UsageFault → List String
  | unknownArgument word => ["error: unexpected argument '" ++ word ++ "' found"]
  | invalidValue => ["error: a value is required for an option but none was supplied"]
  | repeated => ["error: an argument cannot be used multiple times"]
  | unwantedValue => ["error: unexpected value for an option that takes none"]
  | help => CommandLine.help
  | version => [versionLine]

/-- Asking for help or the version is no fault. -/
def UsageFault.isRequest : UsageFault → Bool
  | help => true
  | version => true
  | _ => false

def UsageFault.exitCode (fault : UsageFault) : Nat :=
  if fault.isRequest then 0 else 2

end StandIn.CommandLine
