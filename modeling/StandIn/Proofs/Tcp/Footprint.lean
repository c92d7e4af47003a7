import StandIn.Proofs.Controller.Calls
import StandIn.Proofs.Program.Levels
import StandIn.Proofs.Tcp.Listening

/-!
What a whole history of a controller leaves behind on sockets. Its calls are carried out one after
another, all of them at the endpoint of the controller, so the monitor of the listen port follows it
from a free port back to a free port. Within one script, an answer that is awaited in vain is the last
one that is awaited.
-/

set_option autoImplicit false

namespace StandIn.Tcp

open Socket (Trace)
open Phase (Along)
open Program (Carried)

variable {timing : HeartbeatTiming} {policy : RetryPolicy} {endpoint : Endpoint}

/-! ## One call -/

/-- What a handshake over sockets opens is a session at its own endpoint. -/
theorem carry_opens {there : Endpoint} {devices : List Device} {session : Session} {part : Trace}
    (yields : (carry timing policy (.handshake there devices)).Yields part (.ok session)) :
    session.endpoint = there := by
  have shaken : Handshaking there devices part (.ok session) := handshaking yields
  generalize result : (Except.ok session : Except Fault Session) = ended at shaken
  cases shaken with
  | failed => cases result
  | @answered trace text greeting =>
      rcases open_session_cases there (Reply.ofText text) with
        ⟨opened, same, own⟩ | ⟨reason, same⟩ | ⟨reason, same⟩
      · rw [same] at result
        cases result
        exact own
      · rw [same] at result
        cases result
      · rw [same] at result
        cases result

theorem yields_once {request : Socket} {answer : request.Answer} {part : Trace}
    (yields : request.once.Yields part answer) : part = [⟨request, answer⟩] := by
  obtain ⟨_, rest, rfl, ended⟩ := Program.yields_ask yields
  obtain ⟨rfl, rfl⟩ := Program.yields_done ended
  rfl

theorem carry_along {request : Wire} {answer : request.Answer} {part : Trace}
    (yields : (carry timing policy request).Yields part answer)
    (isFor : Wire.IsFor endpoint ⟨request, answer⟩) :
    Along endpoint.listenPort .free part .free := by
  cases request with
  | narrate line =>
      rw [yields_once yields]
      exact Phase.along_quiet (by simp [isQuiet])
  | pause seconds =>
      rw [yields_once yields]
      exact Phase.along_quiet (by simp [isQuiet])
  | handshake there devices =>
      have same : there = endpoint := isFor
      rw [← same]
      exact (handshaking yields).along
  | heartbeat session => exact Phase.along_quiet (pulsing yields).quiet
  | disconnect session =>
      have same : session.endpoint = endpoint := isFor
      obtain ⟨outcome, negotiating, _⟩ := disconnecting yields
      rw [← same]
      exact negotiating.along

/-- Only in a call that fails for good is an answer awaited in vain, and then it is the last. -/
theorem carry_patient {request : Wire} {answer : request.Answer} {part : Trace}
    (yields : (carry timing policy request).Yields part answer) :
    Steady part ∧
      (Wire.fault? ⟨request, answer⟩ = none ∨ Wire.Lost ⟨request, answer⟩ → Met part) := by
  cases request with
  | narrate line =>
      rw [yields_once yields]
      simp [Steady, Met, acceptance?]
  | pause seconds =>
      rw [yields_once yields]
      simp [Steady, Met, acceptance?]
  | heartbeat session => simp [Steady, Met, (pulsing yields).quiet.acceptances]
  | handshake there devices =>
      have patient := (handshaking yields).patient
      refine ⟨patient.steady, ?_⟩
      rintro (succeeded | lost)
      · apply patient.met
        cases answer with
        | ok session => rfl
        | error fault => cases succeeded
      · cases lost
  | disconnect session =>
      obtain ⟨outcome, negotiating, same⟩ := disconnecting yields
      have patient := negotiating.patient
      refine ⟨patient.steady, ?_⟩
      rintro (succeeded | lost)
      · apply patient.met
        cases outcome with
        | ok number => rfl
        | error fault =>
            cases same
            cases succeeded
      · cases lost

/-! ## All calls -/

theorem carried_along {upper : Wire.Trace} {lower : Trace}
    (carried : Carried (carry timing policy) upper lower)
    (isFor : ∀ call ∈ upper, Wire.IsFor endpoint call) :
    Along endpoint.listenPort .free lower .free := by
  induction carried with
  | nil => exact .nil .free
  | cons done _ induction =>
      apply (carry_along done (isFor _ List.mem_cons_self)).append
      exact induction fun call member => isFor call (List.mem_cons_of_mem _ member)

theorem carried_silent {upper : Wire.Trace} {lower : Trace}
    (carried : Carried (carry timing policy) upper lower) (silent : Wire.calls upper = []) :
    acceptances lower = [] := by
  induction carried with
  | nil => rfl
  | @cons request answer part lower upper done carried induction =>
      cases request with
      | narrate line =>
          have later : Wire.calls upper = [] := silent
          rw [yields_once done]
          simp [acceptance?, induction later]
      | _ => cases silent

/-- Where only the last call can fail for good, only the last answer awaited can fail to come. -/
theorem carried_steady {upper : Wire.Trace} {lower : Trace}
    (carried : Carried (carry timing policy) upper lower) (persistent : Wire.Persistent upper) :
    Steady lower := by
  induction carried with
  | nil => simp [Steady]
  | cons done carried induction =>
      obtain ⟨steady, met⟩ := carry_patient done
      obtain ⟨passed | lost | silent, later⟩ := persistent.cons
      · exact (met (.inl passed)).steady (induction later)
      · exact (met (.inr lost)).steady (induction later)
      · unfold Steady
        rw [acceptances_append, carried_silent carried silent, List.append_nil]
        exact steady

/-! ## Histories -/

section

variable {State : Type} (network : Behaviour Socket.Answer State) (timing : HeartbeatTiming)
  (policy : RetryPolicy) (endpoint : Endpoint) (options : Options) (start : State)

/-- What a history of a controller leaves behind on sockets, whatever the network answers. -/
def footprint (steps : List Step) : Trace :=
  let history := (Controller.fresh endpoint options).converseAll steps
  ((history.perform (carry timing policy)).run network start).trace

/-- Behind the footprint is what the controller has said on the wire, call by call. -/
theorem history_carried (steps : List Step) :
    ∃ upper results after,
      Controller.Past steps (Controller.fresh endpoint options) upper results after ∧
        Carried (carry timing policy) upper
          (footprint network timing policy endpoint options start steps) := by
  obtain ⟨upper, spoken, carried⟩ := Program.yields_perform (Program.run_yields network
    (((Controller.fresh endpoint options).converseAll steps).perform (carry timing policy)) start)
  exact ⟨upper, _, _, Controller.past spoken, carried⟩

/-- The monitor follows a history from a free listen port back to a free one. -/
theorem history_along (steps : List Step) :
    Along endpoint.listenPort .free
      (footprint network timing policy endpoint options start steps) .free := by
  obtain ⟨upper, results, after, past, carried⟩ :=
    history_carried network timing policy endpoint options start steps
  apply carried_along carried
  apply past.calls_for
  intro there devices session member
  obtain ⟨part, yields⟩ := Program.carried_member carried member
  exact carry_opens yields

/-- In one script only the last answer that is awaited can fail to come. -/
theorem script_steady (lines : List String) :
    Steady (footprint network timing policy endpoint options start [.run lines]) := by
  obtain ⟨upper, results, after, past, carried⟩ :=
    history_carried network timing policy endpoint options start [.run lines]
  exact carried_steady carried past.persistent

end

end StandIn.Tcp
