import StandIn.Proofs.Wire.Trace

/-!
How the calls of a piece of work look that has succeeded, and of one that a call has ended. A call
that fails ends the work it belongs to, but for a heartbeat that has run out of time: a handshake
follows it at once, and then it is the handshake that counts.
-/

set_option autoImplicit false

namespace StandIn.Wire

inductive Lost : Exchange Wire.Answer → Prop where
  | heartbeat (session : Session) (what : String) :
      Lost ⟨.heartbeat session, .error (.timeout what)⟩

/-- Calls that have all succeeded, but for heartbeats that ran out of time, each followed at once by
a handshake that succeeded. -/
inductive Smooth : Trace → Prop where
  | nil : Smooth []
  | succeeded {call : Exchange Wire.Answer} {rest : Trace} (succeeded : fault? call = none)
      (smooth : Smooth rest) : Smooth (call :: rest)
  | recovered (session : Session) (what : String) (endpoint : Endpoint) (devices : List Device)
      (anew : Session) {rest : Trace} (smooth : Smooth rest) :
      Smooth (⟨.heartbeat session, .error (.timeout what)⟩ ::
        ⟨.handshake endpoint devices, .ok anew⟩ :: rest)

/-- Calls of which the last has failed for good, whereas before it nothing has failed but heartbeats
that ran out of time. -/
structure Stopped (calls earlier : Trace) (last : Exchange Wire.Answer) (fault : Fault) : Prop where
  split : calls = earlier ++ [last]
  faulted : fault? last = some fault
  fatal : ¬ Lost last
  passed : ∀ call ∈ earlier, fault? call = none ∨ Lost call

theorem Smooth.append {first second : Trace} (early : Smooth first) (late : Smooth second) :
    Smooth (first ++ second) := by
  induction early with
  | nil => exact late
  | succeeded succeeded _ induction => exact .succeeded succeeded induction
  | recovered session what endpoint devices anew _ induction =>
      exact .recovered session what endpoint devices anew induction

theorem Smooth.passed {trace : Trace} (smooth : Smooth trace) :
    ∀ call ∈ trace, fault? call = none ∨ Lost call := by
  induction smooth with
  | nil =>
      intro call member
      cases member
  | succeeded succeeded _ induction =>
      intro call member
      rcases List.mem_cons.mp member with rfl | later
      · exact .inl succeeded
      · exact induction call later
  | recovered session what endpoint devices anew _ induction =>
      intro call member
      rcases List.mem_cons.mp member with rfl | later
      · exact .inr (.heartbeat session what)
      · rcases List.mem_cons.mp later with rfl | later
        · exact .inl rfl
        · exact induction call later

theorem Smooth.stopped {first calls earlier : Trace} {last : Exchange Wire.Answer} {fault : Fault}
    (smooth : Smooth first) (stopped : Stopped calls earlier last fault) :
    Stopped (first ++ calls) (first ++ earlier) last fault where
  split := by rw [stopped.split, List.append_assoc]
  faulted := stopped.faulted
  fatal := stopped.fatal
  passed call member := by
    rcases List.mem_append.mp member with early | late
    · exact smooth.passed call early
    · exact stopped.passed call late

theorem stopped_alone {call : Exchange Wire.Answer} {fault : Fault} (faulted : fault? call = some fault)
    (fatal : ¬ Lost call) : Stopped [call] [] call fault where
  split := rfl
  faulted := faulted
  fatal := fatal
  passed call member := by cases member

end StandIn.Wire
