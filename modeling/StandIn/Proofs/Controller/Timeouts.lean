import StandIn.Proofs.Controller.Statistics

/-!
Where a timeout of a call can go. A step fails with the fault of its last call, and a heartbeat that
runs out of time is no such call. So if nothing but heartbeats ever runs out of time, then no step
fails with a timeout.
-/

set_option autoImplicit false

namespace StandIn

/-- It may be a fault, but not a timeout. -/
def Untimed {Value : Type} (result : Except Fault Value) : Prop :=
  ∀ what, result ≠ .error (.timeout what)

theorem untimed_ok {Value : Type} (value : Value) :
    Untimed (.ok value : Except Fault Value) := by
  intro what same
  cases same

theorem untimed_error {Value : Type} {fault : Fault} (fatal : fault.isTimeout = false) :
    Untimed (.error fault : Except Fault Value) := by
  rintro what ⟨⟩
  cases fatal

theorem Untimed.fatal {Value : Type} {fault : Fault}
    (untimed : Untimed (.error fault : Except Fault Value)) : fault.isTimeout = false := by
  cases fault with
  | timeout what => exact absurd rfl (untimed what)
  | _ => rfl

theorem Untimed.map {Value Result : Type} {result : Except Fault Value} (untimed : Untimed result)
    (change : Value → Result) : Untimed (result.map change) := by
  cases result with
  | ok value => exact untimed_ok (change value)
  | error fault => exact untimed_error untimed.fatal

theorem untimed_ite {Value : Type} {condition : Prop} [Decidable condition]
    {first second : Except Fault Value} (early : Untimed first) (late : Untimed second) :
    Untimed (if condition then first else second) := by
  split
  · exact early
  · exact late

namespace Wire

/-- Nothing but heartbeats has run out of time. -/
def Punctual (trace : Trace) : Prop :=
  ∀ call ∈ trace, isTimedOut call = true → Lost call

theorem Punctual.left {first second : Trace} (punctual : Punctual (first ++ second)) :
    Punctual first :=
  fun call member => punctual call (List.mem_append_left second member)

theorem Punctual.right {first second : Trace} (punctual : Punctual (first ++ second)) :
    Punctual second :=
  fun call member => punctual call (List.mem_append_right first member)

/-- Of the calls only three can run out of time. -/
theorem timed_out_cases {call : Exchange Wire.Answer} (timedOut : isTimedOut call = true) :
    ∃ what, (∃ endpoint devices, call = ⟨.handshake endpoint devices, .error (.timeout what)⟩) ∨
      (∃ session, call = ⟨.disconnect session, .error (.timeout what)⟩) ∨ Lost call := by
  obtain ⟨request, answer⟩ := call
  cases request with
  | narrate line => cases timedOut
  | pause seconds => cases timedOut
  | handshake endpoint devices =>
      cases answer with
      | ok session => cases timedOut
      | error fault =>
          obtain ⟨what, rfl⟩ := Fault.eq_timeout timedOut
          exact ⟨what, .inl ⟨endpoint, devices, rfl⟩⟩
  | disconnect session =>
      cases answer with
      | ok => cases timedOut
      | error fault =>
          obtain ⟨what, rfl⟩ := Fault.eq_timeout timedOut
          exact ⟨what, .inr (.inl ⟨session, rfl⟩)⟩
  | heartbeat session =>
      cases answer with
      | ok => cases timedOut
      | error fault =>
          obtain ⟨what, rfl⟩ := Fault.eq_timeout timedOut
          exact ⟨what, .inr (.inr (.heartbeat session what))⟩

/-- Then those that ran out of time are the lost heartbeats, of which there is a count already. -/
theorem Punctual.losses {trace : Trace} (punctual : Punctual trace) :
    trace.countP isTimedOut = trace.countP isLoss := by
  apply List.countP_congr
  rintro ⟨request, answer⟩ member
  constructor
  · intro timedOut
    obtain ⟨session, what⟩ := punctual _ member timedOut
    rfl
  · intro loss
    cases request with
    | heartbeat session =>
        cases answer with
        | ok => cases loss
        | error fault =>
            cases fault with
            | timeout what => rfl
            | _ => cases loss
    | _ => cases loss

end Wire

namespace Command

theorem seconds_untimed (number : Nat) (action word : String) :
    Untimed (seconds number action word) := by
  unfold seconds
  split
  · exact untimed_error rfl
  · apply untimed_ite (untimed_error rfl)
    exact untimed_ite (untimed_error rfl) (untimed_ok _)

theorem of_words_untimed (number : Nat) (words : List String) : Untimed (ofWords number words) := by
  unfold ofWords
  split
  · exact untimed_ok none
  · exact untimed_ok _
  · exact untimed_ok _
  · exact (seconds_untimed number _ _).map _
  · exact (seconds_untimed number _ _).map _
  · apply untimed_ite (untimed_error rfl)
    exact untimed_ite (untimed_error rfl) (untimed_error rfl)

theorem of_line_untimed (number : Nat) (line : String) : Untimed (ofLine number line) := by
  unfold ofLine
  split
  · exact untimed_ok none
  · exact of_words_untimed number (Text.words line)

end Command

namespace Controller

open Wire (Trace Punctual calls)

theorem StoppedBy.fatal {trace : Trace} {fault : Fault} {after : Controller}
    (stoppedBy : StoppedBy trace fault after) (punctual : Punctual trace) :
    fault.isTimeout = false := by
  obtain ⟨earlier, last, stopped, _⟩ := stoppedBy
  have called : last ∈ calls trace := by
    rw [stopped.split]
    exact List.mem_append_right earlier List.mem_cons_self
  have member : last ∈ trace := (List.mem_filter.mp called).1
  cases timedOut : fault.isTimeout with
  | false => rfl
  | true =>
      refine absurd (punctual last member ?_) stopped.fatal
      simp only [Wire.isTimedOut, stopped.faulted, Option.any_some, timedOut]

theorem Executing.untimed {command : Command} {before after : Controller} {trace : Trace}
    {result : Except Fault Unit} (executing : Executing command before trace result after)
    (punctual : Punctual trace) : Untimed result := by
  cases result with
  | ok => exact untimed_ok ()
  | error fault =>
      rcases executing.faithful with stoppedBy | ⟨_, device, misnamed, _, same, _⟩
      · exact untimed_error (StoppedBy.fatal stoppedBy punctual)
      · cases same
        rw [misnamed.named]
        exact untimed_error rfl

theorem Finishing.untimed {before after : Controller} {trace : Trace} {result : Except Fault Unit}
    (finishing : Finishing before trace result after) (punctual : Punctual trace) :
    Untimed result := by
  cases result with
  | ok => exact untimed_ok ()
  | error fault =>
      obtain ⟨session, _, rfl, _⟩ := finishing.error_cases
      rintro what ⟨⟩
      have lost := punctual _ List.mem_cons_self rfl
      cases lost

theorem Following.untimed {number : Nat} {lines : List String} {before after : Controller}
    {trace : Trace} {result : Except Fault Unit}
    (following : Following number lines before trace result after) (punctual : Punctual trace) :
    Untimed result := by
  induction following with
  | done => exact untimed_ok ()
  | unreadable number line _ _ fault read =>
      have untimed := Command.of_line_untimed number line
      rw [read] at untimed
      exact untimed_error untimed.fatal
  | skipped _ _ _ _ induction => exact induction punctual
  | stopped _ _ _ _ _ executing => exact executing.untimed punctual
  | executed _ _ _ _ _ _ induction => exact induction punctual.right

theorem Running.untimed {lines : List String} {before after : Controller} {trace : Trace}
    {result : Except Fault Stats} (running : Running lines before trace result after)
    (punctual : Punctual trace) : Untimed result := by
  cases running with
  | stopped following => exact untimed_error (following.untimed punctual).fatal
  | unfinished _ finishing => exact untimed_error (finishing.untimed punctual.right).fatal
  | finished => exact untimed_ok _

theorem Taking.untimed {step : Step} {before after : Controller} {trace : Trace}
    {result : Except Fault (Option Stats)} (taking : Taking step before trace result after)
    (punctual : Punctual trace) : Untimed result := by
  cases taking with
  | run lines running => exact (running.untimed punctual).map some
  | execute command executing => exact (executing.untimed punctual).map _
  | finish finishing => exact (finishing.untimed punctual).map _

theorem Past.untimed {steps : List Step} {before after : Controller} {trace : Trace}
    {results : List (Except Fault (Option Stats))} (past : Past steps before trace results after)
    (punctual : Punctual trace) : ∀ result ∈ results, Untimed result := by
  induction past with
  | none =>
      intro result member
      cases member
  | step taking _ induction =>
      intro result member
      rcases List.mem_cons.mp member with rfl | later
      · exact taking.untimed punctual.left
      · exact induction punctual.right result later

end Controller
end StandIn
