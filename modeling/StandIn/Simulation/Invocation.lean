import StandIn.CommandLine.Terminal
import StandIn.Simulation.Directory
import StandIn.Simulation.Network

/-!
A whole invocation of the program in a simulated directory and on a simulated network.
-/

set_option autoImplicit false

namespace StandIn.Simulation

open CommandLine (Arguments Failure Launch UsageFault)

structure Surroundings where
  /-- The log filter in the environment. -/
  filter : Option String := none
  directory : Directory := []
  network : Network := {}

structure Outcome where
  exitCode : Nat
  /-- Lines of the standard output. -/
  output : List String
  /-- Lines of the standard error. -/
  errors : List String
  network : Network

/-- The program after its words have been understood: its result, what it told, and the network
afterwards. -/
def launch (arguments : Arguments) (directory : Directory) (network : Network) :
    Except Failure Unit × List Narration × Network :=
  let config := directory.read arguments.config
  let script := directory.read arguments.script
  match Launch.prepare arguments config script with
  | .error failure => (.error failure, [], network)
  | .ok prepared =>
    let finished := prepared.traffic.run Network.answer network
    (finished.value, narrated finished.trace, finished.state)

/-- The lines of a text that is written as one line. -/
def written (text : String) : List String :=
  Text.lines (text ++ "\n")

def invoke (words : List String) (surroundings : Surroundings) : Outcome :=
  match Arguments.read words with
  | .error fault =>
    if fault.isRequest then ⟨0, fault.report, [], surroundings.network⟩
    else ⟨fault.exitCode, [], fault.report, surroundings.network⟩
  | .ok arguments =>
    let (filter, complaints) := LogFilter.choose surroundings.filter arguments.logLevel
    let (result, told, network) := launch arguments surroundings.directory surroundings.network
    let shown := (told.filter filter.shows).map CommandLine.logText
    let output := CommandLine.banner ++ shown.flatMap written
    match result with
    | .ok () => ⟨0, output, complaints, network⟩
    | .error failure => ⟨1, output, complaints ++ [CommandLine.failureLine failure], network⟩

end StandIn.Simulation
