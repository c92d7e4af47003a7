import StandIn.Proofs.Controller.Moves
import StandIn.Proofs.Wire.Linear

/-!
A controller uses its sessions linearly. The link of the controller is what the monitor of sessions
takes to be open, before and after every move, and each move makes only calls that the monitor
allows there.
-/

set_option autoImplicit false

namespace StandIn

def Link.session? : Link → Option Session
  | .disconnected => none
  | .connected session => some session

namespace Controller

open Wire (Trace Orderly openAfter)

/-- Heartbeats that fail without a timeout do not end a session. -/
theorem open_next_fatal {session : Session} {fault : Fault} (fatal : fault.isTimeout = false) :
    Wire.openNext (some session) ⟨.heartbeat session, .error fault⟩ = some session := by
  cases fault with
  | timeout what => cases fatal
  | _ => rfl

theorem Move.monitored {before after : Controller} {trace : Trace} (move : Move before trace after) :
    Orderly before.link.session? trace ∧
      openAfter before.link.session? trace = after.link.session? := by
  cases move with
  | told line => exact ⟨⟨trivial, trivial⟩, rfl⟩
  | commanded => exact ⟨trivial, rfl⟩
  | changed roster link => exact ⟨trivial, rfl⟩
  | opened session link =>
      rw [link]
      exact ⟨⟨rfl, trivial⟩, rfl⟩
  | unopened fault link =>
      rw [link]
      exact ⟨⟨rfl, trivial⟩, rfl⟩
  | heard session link =>
      have kept : before.heard.link = .connected session := link
      rw [link, kept]
      exact ⟨⟨rfl, trivial⟩, rfl⟩
  | failed session fault link fatal =>
      rw [link]
      exact ⟨⟨rfl, trivial⟩, open_next_fatal fatal⟩
  | lost session what link =>
      rw [link]
      exact ⟨⟨rfl, trivial⟩, rfl⟩
  | released roster session link =>
      rw [link]
      exact ⟨⟨rfl, trivial⟩, rfl⟩
  | stuck roster session fault link =>
      rw [link]
      exact ⟨⟨rfl, trivial⟩, rfl⟩
  | silenced seconds => exact ⟨⟨trivial, trivial⟩, rfl⟩

/-- So far the monitor has allowed every call, and what it takes to be open is the link. -/
structure Monitored (history : Trace) (controller : Controller) : Prop where
  orderly : Orderly none history
  agrees : openAfter none history = controller.link.session?

theorem Monitored.move {history trace : Trace} {before after : Controller}
    (monitored : Monitored history before) (move : Move before trace after) :
    Monitored (history ++ trace) after := by
  obtain ⟨orderly, agrees⟩ := move.monitored
  rw [← monitored.agrees] at orderly agrees
  exact ⟨(Wire.orderly_append none history trace).mpr ⟨monitored.orderly, orderly⟩,
    (Wire.open_after_append none history trace).trans agrees⟩

/-- Whatever the peer answers and whatever is asked of a controller from its first step on, also
after faults, it uses its sessions one at a time and never after their end. -/
theorem sessions_used_linearly {State : Type} (behaviour : Behaviour Wire.Answer State)
    (start : State) (endpoint : Endpoint) (options : Options) (steps : List Step) :
    Wire.Linear (((fresh endpoint options).converseAll steps).run behaviour start).trace := by
  have initially : Monitored [] (fresh endpoint options) := ⟨trivial, rfl⟩
  have monitored := history_keeps behaviour start (fresh endpoint options) steps initially
    fun monitored move => monitored.move move
  exact monitored.orderly.linear

end Controller
end StandIn
