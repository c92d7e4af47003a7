import StandIn.Controller.Step
import StandIn.Proofs.Program.Yields
import StandIn.Proofs.Wire.Trace

/-!
What can come of each action of a controller, for every way in which the peer may answer. For each
action there is a relation with one constructor for each way through it, and a theorem that every
outcome of the action is one of these. Later proofs go by cases on the relations and do not look
into the actions again.
-/

set_option autoImplicit false

namespace StandIn

theorem Fault.eq_timeout {fault : Fault} (timeout : fault.isTimeout = true) :
    ∃ what, fault = .timeout what := by
  cases fault with
  | timeout what => exact ⟨what, rfl⟩
  | _ => cases timeout

namespace Controller

open Wire (Trace)

variable {Value Result : Type}

/-- The action can take the controller from one state to another with this result, leaving these
exchanges behind. -/
def Outcome (action : Action Value) (before : Controller) (trace : Trace)
    (result : Except Fault Value) (after : Controller) : Prop :=
  (action.run.run before).Yields trace (result, after)

theorem run_bind (action : Action Value) (next : Value → Action Result) (before : Controller) :
    (action >>= next).run.run before = (action.run.run before).bind fun
      | (.ok value, middle) => (next value).run.run middle
      | (.error fault, middle) => .done (.error fault, middle) := by
  rw [ExceptT.run_bind, StateT.run_bind]
  refine congrArg (Program.bind _) (funext fun first => ?_)
  obtain ⟨result, middle⟩ := first
  cases result <;> rfl

/-- A sequence of two actions ends with the fault of the first, or goes on from where the first
left the controller. -/
theorem outcome_bind {action : Action Value} {next : Value → Action Result} {before after : Controller}
    {trace : Trace} {result : Except Fault Result}
    (outcome : Outcome (action >>= next) before trace result after) :
    (∃ fault, result = .error fault ∧ Outcome action before trace (.error fault) after) ∨
      ∃ value first middle rest, Outcome action before first (.ok value) middle ∧
        Outcome (next value) middle rest result after ∧ trace = first ++ rest := by
  unfold Outcome at outcome
  rw [run_bind] at outcome
  obtain ⟨first, ⟨value, middle⟩, rest, early, late, rfl⟩ := Program.yields_bind outcome
  cases value with
  | error fault =>
      obtain ⟨rfl, rfl, rfl⟩ := Program.yields_done_pair late
      rw [List.append_nil]
      exact .inl ⟨fault, rfl, early⟩
  | ok value => exact .inr ⟨value, first, middle, rest, early, late, rfl⟩

theorem outcome_done {action : Action Value} {before after middle : Controller} {trace : Trace}
    {result ended : Except Fault Value} (same : action.run.run before = .done (ended, middle))
    (outcome : Outcome action before trace result after) :
    trace = [] ∧ result = ended ∧ after = middle := by
  unfold Outcome at outcome
  rw [same] at outcome
  exact Program.yields_done_pair outcome

variable {State : Type}

def enact (behaviour : Behaviour Wire.Answer State) (action : Action Value) (controller : Controller)
    (start : State) : Finished Wire.Answer State (Except Fault Value × Controller) :=
  (action.run.run controller).run behaviour start

theorem enact_outcome (behaviour : Behaviour Wire.Answer State) (action : Action Value)
    (controller : Controller) (start : State) :
    Outcome action controller (enact behaviour action controller start).trace
      (enact behaviour action controller start).value.1
      (enact behaviour action controller start).value.2 :=
  Program.run_yields behaviour (action.run.run controller) start

theorem enact_bind_error {behaviour : Behaviour Wire.Answer State} {action : Action Value}
    {controller : Controller} {start : State} {fault : Fault} (next : Value → Action Result)
    (failed : (enact behaviour action controller start).value.1 = .error fault) :
    enact behaviour (action >>= next) controller start =
      let ended := enact behaviour action controller start
      ⟨ended.trace, (.error fault, ended.value.2), ended.state⟩ := by
  unfold enact at failed ⊢
  rw [run_bind, Program.run_bind]
  generalize (action.run.run controller).run behaviour start = ended at failed ⊢
  obtain ⟨trace, ⟨result, after⟩, state⟩ := ended
  cases failed
  simp only [Program.run_done, List.append_nil]

theorem enact_bind_ok {behaviour : Behaviour Wire.Answer State} {action : Action Value}
    {controller : Controller} {start : State} {value : Value} (next : Value → Action Result)
    (succeeded : (enact behaviour action controller start).value.1 = .ok value) :
    enact behaviour (action >>= next) controller start =
      let ended := enact behaviour action controller start
      let after := enact behaviour (next value) ended.value.2 ended.state
      ⟨ended.trace ++ after.trace, after.value, after.state⟩ := by
  unfold enact at succeeded ⊢
  rw [run_bind, Program.run_bind]
  generalize (action.run.run controller).run behaviour start = ended at succeeded ⊢
  obtain ⟨trace, ⟨result, after⟩, state⟩ := ended
  cases succeeded
  rfl

/-! ## Changes of a controller -/

def closed (controller : Controller) : Controller :=
  { controller with link := .disconnected }

def opened (controller : Controller) (session : Session) : Controller :=
  { controller with
    link := .connected session
    stats := { controller.stats with handshakes := controller.stats.handshakes + 1 } }

def released (controller : Controller) : Controller :=
  { controller with
    stats := { controller.stats with disconnects := controller.stats.disconnects + 1 } }

def heard (controller : Controller) : Controller :=
  { controller with
    stats := { controller.stats with heartbeats := controller.stats.heartbeats + 1 } }

def lost (controller : Controller) : Controller :=
  { controller with
    link := .disconnected
    stats := { controller.stats with recoveries := controller.stats.recoveries + 1 } }

def commanded (controller : Controller) : Controller :=
  { controller with
    stats := { controller.stats with commands := controller.stats.commands + 1 } }

def withRoster (controller : Controller) (roster : Roster) : Controller :=
  { controller with roster := roster }

/-! ## Handshake, disconnect and heartbeat -/

inductive Announcing (before : Controller) : Trace → Except Fault Unit → Controller → Prop where
  | opened (session : Session) :
      Announcing before [⟨.handshake before.endpoint before.roster.devices, .ok session⟩]
        (.ok ()) (before.opened session)
  | failed (fault : Fault) :
      Announcing before [⟨.handshake before.endpoint before.roster.devices, .error fault⟩]
        (.error fault) before

theorem announce_run (before : Controller) :
    announce.run.run before = .ask (.handshake before.endpoint before.roster.devices) fun
      | .ok session => .done (.ok (), before.opened session)
      | .error fault => .done (.error fault, before) := by
  refine congrArg (Program.ask _) (funext fun offered => ?_)
  cases offered <;> rfl

theorem announcing {before after : Controller} {trace : Trace} {result : Except Fault Unit}
    (outcome : Outcome announce before trace result after) :
    Announcing before trace result after := by
  unfold Outcome at outcome
  rw [announce_run] at outcome
  obtain ⟨offered, rest, rfl, ended⟩ := Program.yields_ask outcome
  cases offered with
  | ok session =>
      obtain ⟨rfl, rfl, rfl⟩ := Program.yields_done_pair ended
      exact .opened session
  | error fault =>
      obtain ⟨rfl, rfl, rfl⟩ := Program.yields_done_pair ended
      exact .failed fault

inductive Leaving (session : Session) (before : Controller) :
    Trace → Except Fault Unit → Controller → Prop where
  | agreed : Leaving session before [⟨.disconnect session, .ok ()⟩] (.ok ()) before.released
  | failed (fault : Fault) :
      Leaving session before [⟨.disconnect session, .error fault⟩] (.error fault) before

theorem leave_run (session : Session) (before : Controller) :
    (leave session).run.run before = .ask (.disconnect session) fun
      | .ok () => .done (.ok (), before.released)
      | .error fault => .done (.error fault, before) := by
  refine congrArg (Program.ask _) (funext fun agreed => ?_)
  cases agreed <;> rfl

theorem leaving {session : Session} {before after : Controller} {trace : Trace}
    {result : Except Fault Unit} (outcome : Outcome (leave session) before trace result after) :
    Leaving session before trace result after := by
  unfold Outcome at outcome
  rw [leave_run] at outcome
  obtain ⟨agreed, rest, rfl, ended⟩ := Program.yields_ask outcome
  cases agreed with
  | ok =>
      obtain ⟨rfl, rfl, rfl⟩ := Program.yields_done_pair ended
      exact .agreed
  | error fault =>
      obtain ⟨rfl, rfl, rfl⟩ := Program.yields_done_pair ended
      exact .failed fault

inductive Beating (before : Controller) : Trace → Except Fault Unit → Controller → Prop where
  | idle (link : before.link = .disconnected) : Beating before [] (.ok ()) before
  | heard (session : Session) (link : before.link = .connected session) :
      Beating before [⟨.heartbeat session, .ok ()⟩] (.ok ()) before.heard
  | failed (session : Session) (link : before.link = .connected session) (fault : Fault)
      (fatal : fault.isTimeout = false) :
      Beating before [⟨.heartbeat session, .error fault⟩] (.error fault) before
  /-- The peer has lost the controller, which announces itself anew. -/
  | lost (session : Session) (link : before.link = .connected session) (what : String)
      {trace : Trace} {result : Except Fault Unit} {after : Controller}
      (announcing : Announcing before.lost trace result after) :
      Beating before (⟨.heartbeat session, .error (.timeout what)⟩ ::
        ⟨.narrate (.lost (.timeout what)), ()⟩ :: trace) result after

theorem beat_run_disconnected {before : Controller} (link : before.link = .disconnected) :
    beat.run.run before = .done (.ok (), before) := by
  cases before
  cases link
  rfl

theorem beat_run_connected {before : Controller} {session : Session}
    (link : before.link = .connected session) :
    beat.run.run before = .ask (.heartbeat session) fun
      | .ok () => .done (.ok (), before.heard)
      | .error fault =>
        if fault.isTimeout then .ask (.narrate (.lost fault)) fun _ => announce.run.run before.lost
        else .done (.error fault, before) := by
  cases before
  cases link
  refine congrArg (Program.ask _) (funext fun answered => ?_)
  cases answered with
  | ok => rfl
  | error fault => cases fault <;> rfl

theorem beating {before after : Controller} {trace : Trace} {result : Except Fault Unit}
    (outcome : Outcome beat before trace result after) : Beating before trace result after := by
  cases link : before.link with
  | disconnected =>
      obtain ⟨rfl, rfl, rfl⟩ := outcome_done (beat_run_disconnected link) outcome
      exact .idle link
  | connected session =>
      unfold Outcome at outcome
      rw [beat_run_connected link] at outcome
      obtain ⟨answered, rest, rfl, ended⟩ := Program.yields_ask outcome
      cases answered with
      | ok =>
          obtain ⟨rfl, rfl, rfl⟩ := Program.yields_done_pair ended
          exact .heard session link
      | error fault =>
          cases fatal : fault.isTimeout with
          | false =>
              simp only [fatal] at ended
              obtain ⟨rfl, rfl, rfl⟩ := Program.yields_done_pair ended
              exact .failed session link fault fatal
          | true =>
              simp only [fatal, if_true] at ended
              obtain ⟨_, others, rfl, anew⟩ := Program.yields_ask ended
              obtain ⟨what, rfl⟩ := Fault.eq_timeout fatal
              exact .lost session link what (announcing anew)

end Controller
end StandIn
