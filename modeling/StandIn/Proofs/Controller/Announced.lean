import StandIn.Proofs.Controller.Moves
import StandIn.Rehearsal

/-!
A controller with an open session has told its peer exactly the devices that are in its roster. The
invariant is about the moves of a controller: every change of the roster goes with a link that is
closed, and only a handshake of the roster as it is opens the link again.
-/

set_option autoImplicit false

namespace StandIn.Controller

open Wire (Trace latestHandshake)

structure Announced (endpoint : Endpoint) (history : Trace) (controller : Controller) : Prop where
  settled : controller.endpoint = endpoint
  latest : ∀ session, controller.link = .connected session →
    latestHandshake history = some ⟨endpoint, controller.roster.devices, .ok session⟩

theorem announced_disconnected {endpoint : Endpoint} {history : Trace} {controller : Controller}
    (same : controller.endpoint = endpoint) (link : controller.link = .disconnected) :
    Announced endpoint history controller where
  settled := same
  latest session connected := by
    rw [link] at connected
    cases connected

/-- An exchange that is no handshake, and a change of nothing but the counters, keep the claim. -/
theorem Announced.other {endpoint : Endpoint} {history : Trace} {before after : Controller}
    {exchange : Exchange Wire.Answer} (announced : Announced endpoint history before)
    (other : Wire.announcement? exchange = none) (sameEndpoint : after.endpoint = before.endpoint)
    (sameRoster : after.roster = before.roster) (sameLink : after.link = before.link) :
    Announced endpoint (history ++ [exchange]) after where
  settled := sameEndpoint.trans announced.settled
  latest session connected := by
    rw [Wire.latest_handshake_other history other, sameRoster]
    exact announced.latest session (sameLink ▸ connected)

theorem Announced.move {endpoint : Endpoint} {history trace : Trace} {before after : Controller}
    (announced : Announced endpoint history before) (move : Move before trace after) :
    Announced endpoint (history ++ trace) after := by
  have same := announced.settled
  cases move with
  | told line => exact announced.other rfl rfl rfl rfl
  | commanded =>
      rw [List.append_nil]
      exact ⟨same, announced.latest⟩
  | changed roster link => exact announced_disconnected same link
  | opened session link =>
      refine ⟨same, fun opened connected => ?_⟩
      cases connected
      rw [Wire.latest_handshake_self, same]
      rfl
  | unopened fault link => exact announced_disconnected same link
  | heard session link => exact announced.other rfl rfl rfl rfl
  | failed session fault link fatal => exact announced.other rfl rfl rfl rfl
  | lost session what link => exact announced_disconnected same rfl
  | released roster session link => exact announced_disconnected same rfl
  | stuck roster session fault link => exact announced_disconnected same rfl
  | silenced seconds => exact announced_disconnected same rfl

/-- Whatever the peer answers and whatever is asked of a controller from its first step on, also
after faults: whenever it has a session, its latest handshake was made where it is set to make
them, announced the devices that it has now, and was answered with that session. -/
theorem connected_roster_announced {State : Type} (behaviour : Behaviour Wire.Answer State)
    (start : State) (endpoint : Endpoint) (options : Options) (steps : List Step)
    (session : Session) :
    let finished := ((fresh endpoint options).converseAll steps).run behaviour start
    finished.value.2.link = .connected session →
      finished.value.2.endpoint = endpoint ∧
        latestHandshake finished.trace =
          some ⟨endpoint, finished.value.2.roster.devices, .ok session⟩ := by
  intro finished connected
  have initially : Announced endpoint [] (fresh endpoint options) := announced_disconnected rfl rfl
  have announced := history_keeps behaviour start (fresh endpoint options) steps initially
    fun announced move => announced.move move
  exact ⟨announced.settled, announced.latest session connected⟩

/-- The peer refuses to let the first session go, so the second device is enabled without being
announced, and the devices left are announced only when the first one is disabled. -/
theorem connected_roster_announced_after_refusal :
    let endpoint : Endpoint := ⟨"localhost", 1870, 5001⟩
    let refusing : Rehearsal := { disconnects := [some (.failing (.io (.system .brokenPipe)))] }
    let steps : List Step := [.execute (.enable ⟨"light", "L1"⟩), .execute (.enable ⟨"sst", "S1"⟩),
      .execute (.disable ⟨"light", "L1"⟩)]
    let finished := ((fresh endpoint {}).converseAll steps).run Rehearsal.answer refusing
    finished.value.2.link = .connected ⟨endpoint, 4002, 4003⟩ ∧
      finished.value.2.endpoint = endpoint ∧
        latestHandshake finished.trace = some ⟨endpoint, [⟨"sst", "S1"⟩], .ok ⟨endpoint, 4002, 4003⟩⟩ :=
  ⟨rfl, connected_roster_announced Rehearsal.answer _ _ {} _ _ rfl⟩

end StandIn.Controller
