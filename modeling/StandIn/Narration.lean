import StandIn.Command
import StandIn.Fault
import StandIn.Session
import StandIn.Stats

/-!
What a controller tells about its work: one line for each thing worth telling, with a level, the
part of the program that speaks, a message and named values. Only `Narration.text` words a line.
-/

set_option autoImplicit false

namespace StandIn

inductive Level where
  | trace
  | debug
  | info
  | warn
  | error
deriving DecidableEq

namespace Level

def text : Level → String
  | trace => "TRACE"
  | debug => "DEBUG"
  | info => "INFO"
  | warn => "WARN"
  | error => "ERROR"

/-- How grave a level is, from the most talkative to the gravest. -/
def rank : Level → Nat
  | trace => 0
  | debug => 1
  | info => 2
  | warn => 3
  | error => 4

end Level

inductive Narration where
  | processing (command : Command)
  | dying (seconds : Nat)
  | tick (number : Nat)
  | lost (fault : Fault)
  | leftOpen (statePort : Port)
  | helloSent (text : String)
  | startReceived (text : String)
  | portsReceived (statePort heartbeatPort : Port)
  | heartbeat (host : String) (port : Port)
  | askingToLeave (attempt : UInt32)
  | accepted (attempts : UInt32)
  | rejected (attempts : UInt32)
  | truncated (what : String) (capacity : Nat)
  | starting (endpoint : Endpoint)
  | complete (stats : Stats)
deriving DecidableEq

namespace Narration

def level : Narration → Level
  | dying _ => .warn
  | lost _ => .warn
  | truncated _ _ => .warn
  | _ => .info

/-- The part of the program that speaks, by the name that log filters know it by. -/
def speaker : Narration → String
  | processing _ => "fdc_sim::driver"
  | dying _ => "fdc_sim::driver"
  | tick _ => "fdc_sim::driver"
  | lost _ => "fdc_sim::driver"
  | leftOpen _ => "fdc_sim::driver"
  | helloSent _ => "fdc_sim::protocol"
  | startReceived _ => "fdc_sim::protocol"
  | portsReceived _ _ => "fdc_sim::protocol"
  | heartbeat _ _ => "fdc_sim::protocol"
  | askingToLeave _ => "fdc_sim::protocol"
  | truncated _ _ => "fdc_sim::protocol"
  | accepted _ => "fdc_sim::disconnect"
  | rejected _ => "fdc_sim::disconnect"
  | starting _ => "controller_cli"
  | complete _ => "controller_cli"

def portText (port : Port) : String :=
  Text.ofNat port.toNat

def message : Narration → String
  | processing command => "Processing command " ++ command.text
  | dying seconds => "Dying horribly for " ++ Text.ofNat seconds ++ "s"
  | tick number => "Sleep " ++ Text.ofNat number
  | lost _ => "Timeout from DGI, sending a new Hello"
  | leftOpen _ => "Script finished with the session still open"
  | helloSent text => "Sent Hello message:\n" ++ text
  | startReceived text => "Received Start message:\n" ++ text
  | portsReceived statePort heartbeatPort =>
    "Received StatePort=" ++ portText statePort ++ ", HeartbeatPort=" ++ portText heartbeatPort
  | heartbeat host port => "Sending heartbeat to " ++ host ++ " " ++ portText port
  | askingToLeave _ => "Sending PoliteDisconnect request to DGI"
  | accepted _ => "Disconnect request accepted"
  | rejected _ => "Disconnect request rejected"
  | truncated what _ => what ++ " reply filled the read buffer and may be truncated"
  | starting _ => "Controller starting"
  | complete _ => "Script complete"

/-- The named values of a line, in the order in which they are written. -/
def fields : Narration → List (String × String)
  | lost fault => [("error", fault.message)]
  | leftOpen statePort => [("state_port", portText statePort)]
  | askingToLeave attempt => [("attempt", Text.ofNat attempt.toNat)]
  | accepted attempts => [("attempts", Text.ofNat attempts.toNat)]
  | rejected attempts => [("attempts", Text.ofNat attempts.toNat)]
  | truncated _ capacity => [("capacity", Text.ofNat capacity)]
  | starting endpoint =>
    [("dgi", endpoint.peerHost ++ ":" ++ portText endpoint.peerPort),
      ("listen_port", portText endpoint.listenPort)]
  | complete stats =>
    [("commands", Text.ofNat stats.commands), ("handshakes", Text.ofNat stats.handshakes),
      ("heartbeats", Text.ofNat stats.heartbeats), ("disconnects", Text.ofNat stats.disconnects),
      ("recoveries", Text.ofNat stats.recoveries)]
  | _ => []

def fieldText : String × String → String
  | (name, value) => " " ++ name ++ "=" ++ value

/-- The message and then each named value. -/
def text (line : Narration) : String :=
  line.message ++ String.join (line.fields.map fieldText)

end Narration
end StandIn
