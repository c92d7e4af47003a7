import StandIn.Wire

/-!
What was said on the wire, as a list of exchanges with the oldest first, and how to read it. Only
narrations are no calls of the peer; of the calls, a pause cannot fail.
-/

set_option autoImplicit false

namespace StandIn.Wire

abbrev Trace := List (Exchange Wire.Answer)

def isCall : Exchange Wire.Answer → Bool
  | ⟨.narrate _, _⟩ => false
  | _ => true

def calls (trace : Trace) : Trace := trace.filter isCall

theorem calls_append (first second : Trace) : calls (first ++ second) = calls first ++ calls second :=
  List.filter_append first second

/-- The fault that a call has met. -/
def fault? : Exchange Wire.Answer → Option Fault
  | ⟨.handshake _ _, .error fault⟩ => some fault
  | ⟨.heartbeat _, .error fault⟩ => some fault
  | ⟨.disconnect _, .error fault⟩ => some fault
  | _ => none

/-- A handshake from both ends: where and what was announced, and what came of it. -/
structure Announcement where
  endpoint : Endpoint
  devices : List Device
  outcome : Except Fault Session

def announcement? : Exchange Wire.Answer → Option Announcement
  | ⟨.handshake endpoint devices, outcome⟩ => some ⟨endpoint, devices, outcome⟩
  | _ => none

/-- The most recent handshake, also if it has failed. -/
def latestHandshake (trace : Trace) : Option Announcement := (trace.filterMap announcement?).getLast?

theorem latest_handshake_append (history trace : Trace) :
    latestHandshake (history ++ trace) = (latestHandshake trace).or (latestHandshake history) := by
  rw [latestHandshake, List.filterMap_append, List.getLast?_append]
  rfl

theorem latest_handshake_other (history : Trace) {exchange : Exchange Wire.Answer}
    (other : announcement? exchange = none) :
    latestHandshake (history ++ [exchange]) = latestHandshake history := by
  have silent : latestHandshake [exchange] = none := by
    simp only [latestHandshake, List.filterMap_cons, other, List.filterMap_nil, List.getLast?_nil]
  rw [latest_handshake_append, silent, Option.none_or]

theorem latest_handshake_self (history : Trace) (endpoint : Endpoint) (devices : List Device)
    (outcome : Except Fault Session) :
    latestHandshake (history ++ [⟨.handshake endpoint devices, outcome⟩]) =
      some ⟨endpoint, devices, outcome⟩ := by
  rw [latest_handshake_append]
  rfl

end StandIn.Wire
