import StandIn.CommandLine.Arguments
import StandIn.Controller.Step
import StandIn.Settings.Document
import StandIn.Text.Line
import StandIn.Toml.Document

/-!
What the command line does once its words are understood: read the settings, read the script, and
run it. The settings come first, so if neither can be used, the settings are reported.
-/

set_option autoImplicit false

namespace StandIn.CommandLine

inductive Failure where
  | loadingConfig (name : String) (fault : SettingsFault)
  | readingScript (name : String) (fault : FileFault)
  | runningScript (name : String) (fault : Fault)
deriving DecidableEq

namespace Failure

/-- What was being done, then what went wrong, then what was behind that. -/
def chain : Failure → List String
  | loadingConfig name fault => ["loading config " ++ name, fault.toFault.message]
  | readingScript name fault => ["reading script " ++ name, fault.message]
  | runningScript name fault => ["running script " ++ name, fault.message] ++ fault.cause.toList

def message (failure : Failure) : String :=
  String.intercalate ": " failure.chain

end Failure

structure Launch where
  settings : Settings
  options : Options
  scriptName : String
  lines : List String

namespace Launch

/-- Makes ready, given what reading the two files came to. -/
def prepare (arguments : Arguments) (config script : Except FileFault (List UInt8)) :
    Except Failure Launch :=
  match Settings.ofFile Toml.ofText? arguments.config config with
  | .error fault => .error (.loadingConfig arguments.config fault)
  | .ok settings =>
    match Settings.fileText script with
    | .error fault => .error (.readingScript arguments.script fault)
    | .ok text => .ok ⟨settings, ⟨arguments.disconnectOnExit⟩, arguments.script, Text.lines text⟩

def controller (launch : Launch) : Controller :=
  { endpoint := launch.settings.endpoint, options := launch.options }

/-- The run of the script with what is told before and after it. -/
def traffic (launch : Launch) : Traffic (Except Failure Unit) := do
  Socket.once (.narrate (.starting launch.settings.endpoint))
  let carry := Tcp.carry launch.settings.timing launch.settings.retry
  let (result, controller) ← (launch.controller.converse (.run launch.lines)).perform carry
  match result with
  | .error fault => return .error (.runningScript launch.scriptName fault)
  | .ok _ =>
    Socket.once (.narrate (.complete controller.stats))
    return .ok ()

end Launch
end StandIn.CommandLine
