import StandIn.Proofs.Controller.Chronicle
import StandIn.Proofs.Controller.Sessions
import StandIn.Proofs.Controller.Statistics

/-!
Where the calls of a controller go, and how far it goes on when one of them fails. If handshakes open
sessions at their own endpoint, every call is for the endpoint of the controller. In one script only
the last call can fail for good.
-/

set_option autoImplicit false

namespace StandIn

namespace Wire

/-- A call, if it is one of the peer, is for this endpoint. -/
def IsFor (endpoint : Endpoint) : Exchange Wire.Answer → Prop
  | ⟨.handshake there _, _⟩ => there = endpoint
  | ⟨.heartbeat session, _⟩ => session.endpoint = endpoint
  | ⟨.disconnect session, _⟩ => session.endpoint = endpoint
  | _ => True

theorem latest_handshake_member {trace : Trace} {endpoint : Endpoint} {devices : List Device}
    {outcome : Except Fault Session}
    (latest : latestHandshake trace = some ⟨endpoint, devices, outcome⟩) :
    ⟨.handshake endpoint devices, outcome⟩ ∈ trace := by
  obtain ⟨⟨request, answer⟩, member, announced⟩ := List.mem_filterMap.mp (List.mem_of_getLast? latest)
  cases request with
  | handshake there announcedDevices =>
      cases announced
      exact member
  | _ => cases announced

/-- Only the last call may have failed for good. -/
def Persistent (trace : Trace) : Prop :=
  ∀ call ∈ (calls trace).dropLast, fault? call = none ∨ Lost call

theorem persistent_nil : Persistent [] := by
  simp [Persistent, calls]

theorem persistent_single (call : Exchange Wire.Answer) : Persistent [call] := by
  have short : (calls [call]).length ≤ 1 := List.length_filter_le isCall [call]
  have none : (calls [call]).dropLast = [] := by
    rw [← List.length_eq_zero_iff, List.length_dropLast]
    omega
  simp [Persistent, none]

theorem Smooth.persistent {first second : Trace} (smooth : Smooth (calls first))
    (persistent : Persistent second) : Persistent (first ++ second) := by
  intro call member
  rw [calls_append, List.dropLast_append] at member
  split at member
  · exact smooth.passed call (List.dropLast_subset _ member)
  · rcases List.mem_append.mp member with early | late
    · exact smooth.passed call early
    · exact persistent call late

theorem Persistent.cons {call : Exchange Wire.Answer} {rest : Trace}
    (persistent : Persistent (call :: rest)) :
    (fault? call = none ∨ Lost call ∨ calls rest = []) ∧ Persistent rest := by
  cases isCall : isCall call with
  | false =>
      have told : fault? call = none := by
        obtain ⟨request, answer⟩ := call
        cases request with
        | narrate line => rfl
        | _ => cases isCall
      have same : calls (call :: rest) = calls rest := List.filter_cons_of_neg (by simp [isCall])
      rw [Persistent, same] at persistent
      exact ⟨.inl told, persistent⟩
  | true =>
      have same : calls (call :: rest) = call :: calls rest := List.filter_cons_of_pos isCall
      rw [Persistent, same] at persistent
      cases later : calls rest with
      | nil =>
          refine ⟨.inr (.inr rfl), ?_⟩
          simp [Persistent, later]
      | cons other others =>
          rw [later, List.dropLast_cons_cons] at persistent
          constructor
          · rcases persistent call List.mem_cons_self with passed | lost
            · exact .inl passed
            · exact .inr (.inl lost)
          · intro next member
            rw [later] at member
            exact persistent next (List.mem_cons_of_mem _ member)

end Wire

namespace Controller

open Wire (Trace IsFor Persistent Orderly calls)

/-- Every call of a history is for the endpoint of the controller, as long as what a handshake opens
is a session at its own endpoint. -/
theorem Past.calls_for {steps : List Step} {endpoint : Endpoint} {options : Options}
    {trace : Trace} {results : List (Except Fault (Option Stats))} {after : Controller}
    (past : Past steps (fresh endpoint options) trace results after)
    (own : ∀ there devices session, ⟨.handshake there devices, .ok session⟩ ∈ trace →
      session.endpoint = there) :
    ∀ call ∈ trace, IsFor endpoint call := by
  obtain ⟨commands, chronicle, _⟩ := past.chronicle
  have initially : Monitored [] (fresh endpoint options) := ⟨trivial, rfl⟩
  have monitored : Monitored ([] ++ trace) after :=
    past.moves.keep (fun monitored move => monitored.move move) initially
  have linear : Wire.Linear trace := monitored.orderly.linear
  have announced : ∀ there devices outcome, ⟨.handshake there devices, outcome⟩ ∈ trace →
      there = endpoint := by
    intro there devices outcome member
    obtain ⟨earlier, later, split⟩ := List.mem_iff_append.mp member
    exact (chronicle.current earlier there devices outcome later split).1
  have opened : ∀ earlier call later session, trace = earlier ++ call :: later →
      Wire.Uses session call → session.endpoint = endpoint := by
    intro earlier call later session split uses
    obtain ⟨there, devices, latest⟩ := linear.latest earlier call later session split uses
    have member : ⟨.handshake there devices, .ok session⟩ ∈ trace := by
      rw [split]
      exact List.mem_append_left _ (Wire.latest_handshake_member latest)
    exact (own there devices session member).trans (announced there devices _ member)
  intro call member
  obtain ⟨earlier, later, split⟩ := List.mem_iff_append.mp member
  obtain ⟨request, answer⟩ := call
  cases request with
  | narrate line => trivial
  | handshake there devices => exact announced there devices answer member
  | heartbeat session => exact opened earlier _ later session split (.heartbeat answer)
  | disconnect session => exact opened earlier _ later session split (.disconnect answer)
  | pause seconds => trivial

/-! ## One script -/

theorem StoppedBy.persistent {trace : Trace} {fault : Fault} {after : Controller}
    (stopped : StoppedBy trace fault after) : Persistent trace := by
  obtain ⟨earlier, last, stopped, _⟩ := stopped
  intro call member
  rw [stopped.split, List.dropLast_concat] at member
  exact stopped.passed call member

theorem Executing.persistent {command : Command} {before after : Controller} {trace : Trace}
    {fault : Fault} (executing : Executing command before trace (.error fault) after) :
    Persistent trace := by
  rcases executing.faithful with stopped | ⟨_, _, _, silent, _⟩
  · exact StoppedBy.persistent stopped
  · simp [Persistent, silent]

theorem Following.persistent {number : Nat} {lines : List String} {before after : Controller}
    {trace : Trace} {result : Except Fault Unit}
    (following : Following number lines before trace result after) : Persistent trace := by
  induction following with
  | done => exact Wire.persistent_nil
  | unreadable => exact Wire.persistent_nil
  | skipped _ _ _ _ induction => exact induction
  | stopped _ _ _ _ _ executing => exact executing.persistent
  | executed _ _ _ _ executing _ induction => exact executing.smooth.persistent induction

theorem Finishing.persistent {before after : Controller} {trace : Trace}
    {result : Except Fault Unit} (finishing : Finishing before trace result after) :
    Persistent trace := by
  cases finishing with
  | disconnected => exact Wire.persistent_nil
  | kept => exact Wire.persistent_single _
  | left session link asked leaving =>
      cases leaving with
      | agreed => exact Wire.persistent_single _
      | failed fault => exact Wire.persistent_single _

/-- A script does nothing more when a call has failed for good. -/
theorem Running.persistent {lines : List String} {before after : Controller} {trace : Trace}
    {result : Except Fault Stats} (running : Running lines before trace result after) :
    Persistent trace := by
  cases running with
  | stopped following => exact following.persistent
  | unfinished following finishing =>
      exact (following.smooth rfl).persistent finishing.persistent
  | finished following finishing =>
      exact (following.smooth rfl).persistent finishing.persistent

theorem Past.persistent {lines : List String} {before after : Controller} {trace : Trace}
    {results : List (Except Fault (Option Stats))}
    (past : Past [.run lines] before trace results after) : Persistent trace := by
  cases past with
  | step taking rest =>
      cases rest with
      | none =>
          cases taking with
          | run lines running =>
              rw [List.append_nil]
              exact running.persistent

end Controller
end StandIn
