import StandIn.Command
import StandIn.Roster
import StandIn.Proofs.Wire.Failures

/-!
What a trace tells about the devices. The commands that were begun are told, so the roster at any
moment can be replayed from the part of the trace before it, and a handshake is current if it
announces the roster of its moment. A trace is renewed if each heartbeat that ran out of time is
followed by a handshake as the very next call.
-/

set_option autoImplicit false

namespace StandIn

/-- The roster when a command has been begun. A device to disable that is not there changes nothing. -/
def Command.applied (roster : Roster) : Command → Roster
  | .enable device => roster.enable device
  | .disable device =>
    match roster.disable device with
    | .ok (_, others) => others
    | .error _ => roster
  | .dieHorribly _ => roster
  | .sleep _ => roster

def Roster.replay (roster : Roster) (commands : List Command) : Roster :=
  commands.foldl Command.applied roster

theorem Roster.replay_append (roster : Roster) (first second : List Command) :
    roster.replay (first ++ second) = (roster.replay first).replay second :=
  List.foldl_append

namespace Wire

def command? : Exchange Wire.Answer → Option Command
  | ⟨.narrate (.processing command), _⟩ => some command
  | _ => none

/-- The commands that were told to be processed, in order. -/
def commands (trace : Trace) : List Command := trace.filterMap command?

theorem commands_append (first second : Trace) :
    commands (first ++ second) = commands first ++ commands second :=
  List.filterMap_append

/-- Each handshake is made with this endpoint, and announces the roster of its moment. -/
def Current (endpoint : Endpoint) (roster : Roster) (trace : Trace) : Prop :=
  ∀ earlier there devices outcome later,
    trace = earlier ++ ⟨.handshake there devices, outcome⟩ :: later →
      there = endpoint ∧ devices = (roster.replay (commands earlier)).devices

theorem current_nil (endpoint : Endpoint) (roster : Roster) : Current endpoint roster [] := by
  intro earlier there devices outcome later split
  cases earlier <;> cases split

theorem current_other {endpoint : Endpoint} {roster : Roster} {exchange : Exchange Wire.Answer}
    (other : announcement? exchange = none) : Current endpoint roster [exchange] := by
  intro earlier there devices outcome later split
  cases earlier with
  | nil =>
      obtain ⟨rfl, _⟩ := List.cons.inj split
      cases other
  | cons first rest =>
      have longer := congrArg List.length split
      simp at longer

theorem current_announced (endpoint : Endpoint) (roster : Roster)
    (outcome : Except Fault Session) :
    Current endpoint roster [⟨.handshake endpoint roster.devices, outcome⟩] := by
  intro earlier there devices ended later split
  cases earlier with
  | nil =>
      obtain ⟨same, _⟩ := List.cons.inj split
      cases same
      exact ⟨rfl, rfl⟩
  | cons first rest =>
      have longer := congrArg List.length split
      simp at longer

theorem Current.append {endpoint : Endpoint} {roster : Roster} {first second : Trace}
    (early : Current endpoint roster first)
    (late : Current endpoint (roster.replay (commands first)) second) :
    Current endpoint roster (first ++ second) := by
  intro earlier there devices outcome later split
  rcases List.append_eq_append_iff.mp split with ⟨middle, rfl, behind⟩ | ⟨middle, before, behind⟩
  · have here := late middle there devices outcome later behind
    rwa [commands_append, Roster.replay_append]
  · cases middle with
    | nil =>
        rw [List.append_nil] at before
        subst before
        exact late [] there devices outcome later behind.symm
    | cons call rest =>
        obtain ⟨rfl, _⟩ := List.cons.inj behind
        exact early earlier there devices outcome rest before

/-- Calls of which each heartbeat out of time is followed at once by a handshake, whatever comes of
that. -/
inductive Renewed : Trace → Prop where
  | nil : Renewed []
  | other {call : Exchange Wire.Answer} {rest : Trace} (other : ¬ Lost call)
      (renewed : Renewed rest) : Renewed (call :: rest)
  | anew (session : Session) (what : String) (endpoint : Endpoint) (devices : List Device)
      (outcome : Except Fault Session) {rest : Trace} (renewed : Renewed rest) :
      Renewed (⟨.heartbeat session, .error (.timeout what)⟩ ::
        ⟨.handshake endpoint devices, outcome⟩ :: rest)

theorem Renewed.append {first second : Trace} (early : Renewed first) (late : Renewed second) :
    Renewed (first ++ second) := by
  induction early with
  | nil => exact late
  | other other _ induction => exact .other other induction
  | anew session what endpoint devices outcome _ induction =>
      exact .anew session what endpoint devices outcome induction

theorem renewed_single {call : Exchange Wire.Answer} (other : ¬ Lost call) : Renewed [call] :=
  .other other .nil

end Wire
end StandIn
