import StandIn.Command.Line
import StandIn.Roster
import StandIn.Wire

/-!
The controller: a roster of devices, a link that is closed or open, and counters. Each action is a
program over the wire, so it says what the controller does for every way in which the peer may
answer. An action that meets a fault stops there and keeps what it has changed so far.
-/

set_option autoImplicit false

namespace StandIn

inductive Link where
  | disconnected
  | connected (session : Session)
deriving DecidableEq

structure Options where
  /-- Whether the end of a script closes an open session. -/
  disconnectOnExit : Bool := false
deriving DecidableEq

structure Controller where
  endpoint : Endpoint
  options : Options := {}
  roster : Roster := .empty
  link : Link := .disconnected
  stats : Stats := {}
deriving DecidableEq

abbrev Action := ExceptT Fault (StateT Controller Conversation)

namespace Controller

def onWire (request : Wire) : Action (Wire.Answer request) :=
  ExceptT.lift (StateT.lift (Program.request request))

def narrate (line : Narration) : Action Unit :=
  onWire (.narrate line)

def close : Action Unit :=
  modify fun controller => { controller with link := .disconnected }

def count (change : Stats → Stats) : Action Unit :=
  modify fun controller => { controller with stats := change controller.stats }

def announce : Action Unit := do
  let controller ← get
  let offered ← onWire (.handshake controller.endpoint controller.roster.devices)
  let session ← liftExcept offered
  count fun stats => { stats with handshakes := stats.handshakes + 1 }
  modify fun controller => { controller with link := .connected session }
where
  liftExcept (offered : Except Fault Session) : Action Session :=
    match offered with
    | .ok session => pure session
    | .error fault => throw fault

/-- Asks the peer to let the session go. The link must have been closed before. -/
def leave (session : Session) : Action Unit := do
  match ← onWire (.disconnect session) with
  | .ok () => count fun stats => { stats with disconnects := stats.disconnects + 1 }
  | .error fault => throw fault

/-- Closes an open session politely, and announces the roster as it is now. -/
def reannounce : Action Unit := do
  match (← get).link with
  | .disconnected => announce
  | .connected session =>
    close
    leave session
    announce

/-- One heartbeat if a session is open. A timeout closes it and forces a new handshake; any other
fault ends the action with the session open. -/
def beat : Action Unit := do
  match (← get).link with
  | .disconnected => pure ()
  | .connected session =>
    match ← onWire (.heartbeat session) with
    | .ok () => count fun stats => { stats with heartbeats := stats.heartbeats + 1 }
    | .error fault =>
      if fault.isTimeout then
        narrate (.lost fault)
        count fun stats => { stats with recoveries := stats.recoveries + 1 }
        close
        announce
      else throw fault

/-- Idles for the remaining ticks. Without a session a tick does nothing, and none can open one. -/
def idle (tick : Nat) : Nat → Action Unit
  | 0 => pure ()
  | remaining + 1 => do
    match (← get).link with
    | .disconnected => pure ()
    | .connected _ =>
      narrate (.tick tick)
      beat
      idle (tick + 1) remaining

/-- What a command does before the heartbeat that every command ends with. -/
def obey : Command → Action Unit
  | .enable device => do
    modify fun controller => { controller with roster := controller.roster.enable device }
    reannounce
  | .disable device => do
    match (← get).roster.disable device with
    | .ok (_, roster) =>
      modify fun controller => { controller with roster := roster }
      reannounce
    | .error fault => throw fault
  | .dieHorribly seconds => do
    narrate (.dying seconds)
    close
    onWire (.pause seconds)
    announce
  | .sleep seconds => idle 0 seconds

def execute (command : Command) : Action Unit := do
  narrate (.processing command)
  count fun stats => { stats with commands := stats.commands + 1 }
  obey command
  beat

def finish : Action Unit := do
  let controller ← get
  match controller.link with
  | .disconnected => pure ()
  | .connected session =>
    if controller.options.disconnectOnExit then
      close
      leave session
    else narrate (.leftOpen session.statePort)

/-- Executes the commands of the lines in order up to the first fault; lines are numbered from the
given number. -/
def follow (number : Nat) : List String → Action Unit
  | [] => pure ()
  | line :: rest => do
    match Command.ofLine number line with
    | .error fault => throw fault
    | .ok none => follow (number + 1) rest
    | .ok (some command) =>
      execute command
      follow (number + 1) rest

def run (lines : List String) : Action Stats := do
  follow 1 lines
  finish
  return (← get).stats

end Controller
end StandIn
