import StandIn.Narration
import StandIn.Program
import StandIn.Reply

/-!
The polite disconnect as a negotiation: ask, and ask again as long as the peer rejects and the
policy allows. Attempts are counted in 32 bits. A policy with a bound refuses at the bound, before
the count can run over; one without a bound never refuses. If the peer rejects as many attempts as
there are numbers, the count overflows, and a negotiation without a bound has that as an ending of
its own, `Fault.countOverflow`. No policy decides it, and nothing goes on with a number that has
come round to zero.
-/

set_option autoImplicit false

namespace StandIn

/-- How often to ask again. Without a bound the peer is asked until it agrees. -/
structure RetryPolicy where
  maxAttempts : Option UInt32 := none
  backoffMilliseconds : Nat := 0
deriving DecidableEq

def RetryPolicy.exhausted (policy : RetryPolicy) (attempts : UInt32) : Bool :=
  match policy.maxAttempts with
  | none => false
  | some bound => bound ≤ attempts

/-- What a negotiation needs of its surroundings. -/
inductive Negotiation where
  /-- One request and its reply; attempts are numbered from one. -/
  | attempt (number : UInt32)
  | narrate (line : Narration)
  | wait (milliseconds : Nat)

namespace Negotiation

abbrev Answer : Negotiation → Type
  | attempt _ => Except Fault Reply
  | narrate _ => Unit
  | wait _ => Unit

abbrev Talk := Program Answer

def say (line : Narration) : Talk Unit :=
  Program.request (narrate line)

def waitFor (milliseconds : Nat) : Talk Unit :=
  if milliseconds = 0 then pure () else Program.request (wait milliseconds)

def responseFault (reason : String) : Fault :=
  .protocol ("disconnect response malformed: " ++ reason)

/-- Asks for the given time, and on rejection as many times more as there are numbers left. -/
def askFrom (policy : RetryPolicy) : Nat → UInt32 → Talk (Except Fault UInt32)
  | left, number => do
    match ← Program.request (attempt number) with
    | .error fault => return .error fault
    | .ok .accepted =>
      say (.accepted number)
      return .ok number
    | .ok .rejected =>
      say (.rejected number)
      if policy.exhausted number then return .error (.refused number)
      else
        waitFor policy.backoffMilliseconds
        match left with
        | 0 => return .error .countOverflow
        | less + 1 => askFrom policy less (number + 1)
    | .ok (.start _ _) => return .error (responseFault "got a Start message")
    | .ok (.malformed cause) => return .error (responseFault cause.message)

def lastAttempt : Nat := UInt32.size - 1

/-- Negotiates to the end: the number of attempts when the peer agreed, else why it did not. -/
def negotiate (policy : RetryPolicy) : Talk (Except Fault UInt32) :=
  askFrom policy (lastAttempt - 1) 1

end Negotiation
end StandIn
