import StandIn.Proofs.Wire.Trace

/-!
What there is to count in a trace: calls by their kind and by how they have ended.
-/

set_option autoImplicit false

namespace StandIn.Wire

def isOpening : Exchange Wire.Answer → Bool
  | ⟨.handshake _ _, .ok _⟩ => true
  | _ => false

def isHeard : Exchange Wire.Answer → Bool
  | ⟨.heartbeat _, .ok _⟩ => true
  | _ => false

def isLoss : Exchange Wire.Answer → Bool
  | ⟨.heartbeat _, .error (.timeout _)⟩ => true
  | _ => false

def isLeave : Exchange Wire.Answer → Bool
  | ⟨.disconnect _, _⟩ => true
  | _ => false

def isRelease : Exchange Wire.Answer → Bool
  | ⟨.disconnect _, .ok _⟩ => true
  | _ => false

/-- A handshake that has failed with an answer that makes no sense. -/
def isMisanswered : Exchange Wire.Answer → Bool
  | ⟨.handshake _ _, .error (.protocol _)⟩ => true
  | ⟨.handshake _ _, .error (.configuration _)⟩ => true
  | _ => false

/-- A disconnect that has failed with an answer that makes no sense. -/
def isMisled : Exchange Wire.Answer → Bool
  | ⟨.disconnect _, .error (.protocol _)⟩ => true
  | _ => false

def isTimedOut (call : Exchange Wire.Answer) : Bool :=
  (fault? call).any Fault.isTimeout

theorem loss_fatal (session : Session) {fault : Fault} (fatal : fault.isTimeout = false) :
    isLoss ⟨.heartbeat session, .error fault⟩ = false := by
  cases fault with
  | timeout what => cases fatal
  | _ => rfl

/-- A call that asks to be let go and meets no fault is one that the peer has agreed to. -/
theorem release_of_no_fault {call : Exchange Wire.Answer} (unfailing : fault? call = none) :
    isRelease call = isLeave call := by
  obtain ⟨request, answer⟩ := call
  cases request with
  | disconnect session =>
      cases answer with
      | ok => rfl
      | error fault => cases unfailing
  | _ => rfl

/-- What is counted in a trace and is no telling is counted among the calls. -/
theorem count_calls (kind : Exchange Wire.Answer → Bool)
    (silent : ∀ line, kind ⟨.narrate line, ()⟩ = false) (trace : Trace) :
    (calls trace).countP kind = trace.countP kind := by
  rw [calls, List.countP_filter]
  refine List.countP_congr fun exchange _ => ?_
  obtain ⟨request, answer⟩ := exchange
  cases request with
  | narrate line => simp [isCall, silent line]
  | _ => simp [isCall]

end StandIn.Wire
