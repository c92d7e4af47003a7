import Mathlib.Data.Nat.Find
import StandIn.Proofs.Tcp.Outcome
import StandIn.Rehearsal

/-!
How long a negotiation lasts and what it ends with. It goes on over rejections alone, one attempt
after another, and stops at the first answer that is none, at the bound of its policy, or when no
attempt can be counted any more. That last end is an overflow and no refusal: a policy with a bound
never comes to it, and one without a bound never refuses.
-/

set_option autoImplicit false

namespace StandIn

open Tcp (afterReply goingOn ask_from_eq)

/-- The most attempts that a policy with this bound makes; at least one is made in any case. -/
def RetryPolicy.most (bound : UInt32) : Nat := max 1 bound.toNat

/-- So many attempts may be made, if all but the last one are rejected. Without a bound only the
count of attempts has an end. -/
def RetryPolicy.Permits (policy : RetryPolicy) (count : Nat) : Prop :=
  match policy.maxAttempts with
  | none => count < UInt32.size
  | some bound => count ≤ most bound

/-- The number of attempts after which a policy makes no other in any case. -/
def RetryPolicy.limit (policy : RetryPolicy) : Nat :=
  match policy.maxAttempts with
  | none => Negotiation.lastAttempt
  | some bound => most bound

namespace Negotiation

/-- Surroundings in which the attempts have these outcomes one after another; the state is how many
there were. -/
def inTurn (outcomes : Nat → Except Fault Reply) : Behaviour Answer Nat
  | .attempt _, made => (outcomes made, made + 1)
  | .narrate _, made => ((), made)
  | .wait _, made => ((), made)

/-- What becomes of a negotiation by an outcome after which no attempt is made. After a rejection
either the policy has had enough or the count overflows. -/
def verdict (policy : RetryPolicy) (number : UInt32) : Except Fault Reply → Except Fault UInt32
  | .error fault => .error fault
  | .ok .accepted => .ok number
  | .ok .rejected => .error (if policy.exhausted number then .refused number else .countOverflow)
  | .ok (.start _ _) => .error (responseFault "got a Start message")
  | .ok (.malformed cause) => .error (responseFault cause.message)

variable {policy : RetryPolicy} {outcomes : Nat → Except Fault Reply} {left made : Nat}
  {number : UInt32}

/-! ## One attempt -/

theorem ask_run_failed {fault : Fault} (failed : outcomes made = .error fault) :
    (askFrom policy left number).run (inTurn outcomes) made =
      ⟨[⟨.attempt number, .error fault⟩], .error fault, made + 1⟩ := by
  rw [ask_from_eq]
  simp only [Program.run, inTurn, failed]

theorem ask_run_answered {reply : Reply} (answered : outcomes made = .ok reply) :
    (askFrom policy left number).run (inTurn outcomes) made =
      let after := (afterReply policy left number reply).run (inTurn outcomes) (made + 1)
      ⟨⟨.attempt number, .ok reply⟩ :: after.trace, after.value, after.state⟩ := by
  rw [ask_from_eq]
  simp only [Program.run, inTurn, answered]

/-- An outcome that is no rejection ends the negotiation. -/
theorem ask_run_settled (settled : outcomes made ≠ .ok .rejected) :
    let ended := (askFrom policy left number).run (inTurn outcomes) made
    attempts ended.trace = [number] ∧ ended.value = verdict policy number (outcomes made) := by
  cases outcome : outcomes made with
  | error fault =>
      rw [ask_run_failed outcome]
      exact ⟨rfl, rfl⟩
  | ok reply =>
      rw [ask_run_answered outcome]
      cases reply with
      | rejected => exact absurd outcome settled
      | _ => exact ⟨rfl, rfl⟩

theorem ask_run_exhausted (rejected : outcomes made = .ok .rejected)
    (exhausted : policy.exhausted number = true) :
    let ended := (askFrom policy left number).run (inTurn outcomes) made
    attempts ended.trace = [number] ∧ ended.value = .error (.refused number) := by
  have ending : afterReply policy left number .rejected =
      .ask (.narrate (.rejected number)) fun _ => .done (.error (.refused number)) := by
    rw [afterReply, exhausted, if_pos rfl]
    rfl
  rw [ask_run_answered rejected, ending]
  exact ⟨rfl, rfl⟩

/-- A rejection that the policy allows is told, waited for, and left behind. -/
theorem ask_run_allowed (rejected : outcomes made = .ok .rejected)
    (allowed : policy.exhausted number = false) :
    let ended := (askFrom policy left number).run (inTurn outcomes) made
    let later := (goingOn policy left number).run (inTurn outcomes) (made + 1)
    attempts ended.trace = number :: attempts later.trace ∧ ended.value = later.value := by
  have further : afterReply policy left number .rejected =
      .ask (.narrate (.rejected number)) fun _ =>
        (waitFor policy.backoffMilliseconds).bind fun _ => goingOn policy left number := by
    rw [afterReply, allowed, if_neg Bool.false_ne_true]
    rfl
  rw [ask_run_answered rejected, further, waitFor]
  by_cases none : policy.backoffMilliseconds = 0
  · rw [if_pos none]
    exact ⟨rfl, rfl⟩
  · rw [if_neg none]
    exact ⟨rfl, rfl⟩

/-! ## Rejections one after another -/

/-- The number of the attempt before which so many were made. -/
def numberAfter (made : Nat) : UInt32 := UInt32.ofNat (made + 1)

theorem number_after_to_nat (room : made < lastAttempt) : (numberAfter made).toNat = made + 1 := by
  have fits : made + 1 < UInt32.size := by
    unfold lastAttempt at room
    omega
  exact UInt32.toNat_ofNat_of_lt' fits

theorem number_after_succ (made : Nat) : numberAfter made + 1 = numberAfter (made + 1) := by
  unfold numberAfter
  rw [UInt32.ofNat_add (made + 1) 1]
  rfl

/-- What is left of a negotiation after so many attempts, for the outcomes that are still to come. -/
def remaining (policy : RetryPolicy) (outcomes : Nat → Except Fault Reply) (made : Nat) :
    Finished Answer Nat (Except Fault UInt32) :=
  (askFrom policy (lastAttempt - 1 - made) (numberAfter made)).run (inTurn outcomes) made

theorem negotiate_run :
    (negotiate policy).run (inTurn outcomes) 0 = remaining policy outcomes 0 := rfl

/-- The outcome after so many attempts is a rejection that lets the negotiation go on. -/
structure Passed (policy : RetryPolicy) (outcomes : Nat → Except Fault Reply) (made : Nat) :
    Prop where
  rejected : outcomes made = .ok .rejected
  allowed : policy.exhausted (numberAfter made) = false

theorem Passed.remaining (passed : Passed policy outcomes made) (room : made + 1 < lastAttempt) :
    attempts (remaining policy outcomes made).trace =
        numberAfter made :: attempts (remaining policy outcomes (made + 1)).trace ∧
      (remaining policy outcomes made).value = (remaining policy outcomes (made + 1)).value := by
  have more : lastAttempt - 1 - made = lastAttempt - 1 - (made + 1) + 1 := by omega
  unfold Negotiation.remaining
  rw [more, ← number_after_succ]
  exact ask_run_allowed passed.rejected passed.allowed

/-- The numbers of so many attempts. -/
def numbers (count : Nat) : List UInt32 := (List.range count).map numberAfter

theorem numbers_succ (count : Nat) : numbers (count + 1) = numbers count ++ [numberAfter count] := by
  rw [numbers, List.range_succ, List.map_append]
  rfl

theorem numbers_to_nat {count : Nat} (room : count ≤ lastAttempt) :
    (numbers count).map UInt32.toNat = List.range' 1 count := by
  induction count with
  | zero => rfl
  | succ count induction =>
      rw [numbers_succ, List.map_append, induction (Nat.le_of_succ_le room), List.map_singleton,
        number_after_to_nat room, List.range'_1_concat, Nat.add_comm 1 count]

/-- As long as rejections are passed, each attempt has the next number and nothing is decided. -/
theorem rejections_passed {count : Nat} (room : count < lastAttempt)
    (passed : ∀ place < count, Passed policy outcomes place) :
    attempts (remaining policy outcomes 0).trace =
        numbers count ++ attempts (remaining policy outcomes count).trace ∧
      (remaining policy outcomes 0).value = (remaining policy outcomes count).value := by
  induction count with
  | zero => exact ⟨rfl, rfl⟩
  | succ count induction =>
      obtain ⟨made, same⟩ := induction (by omega) fun place before => passed place (by omega)
      obtain ⟨next, kept⟩ := (passed count (Nat.lt_succ_self count)).remaining room
      rw [made, next, numbers_succ, List.append_assoc, List.singleton_append]
      exact ⟨rfl, same.trans kept⟩

/-! ## The last attempt -/

theorem exhausted_iff (room : made < lastAttempt) :
    policy.exhausted (numberAfter made) = true ↔
      ∃ bound, policy.maxAttempts = some bound ∧ RetryPolicy.most bound ≤ made + 1 := by
  unfold RetryPolicy.exhausted
  cases policy.maxAttempts with
  | none => simp
  | some bound =>
      have compared : bound ≤ numberAfter made ↔ RetryPolicy.most bound ≤ made + 1 := by
        rw [UInt32.le_iff_toNat_le, number_after_to_nat room, RetryPolicy.most]
        omega
      simpa using compared

/-- With the outcome after so many attempts no further one is made. -/
def Last (policy : RetryPolicy) (outcomes : Nat → Except Fault Reply) (made : Nat) : Prop :=
  outcomes made ≠ .ok .rejected ∨ policy.exhausted (numberAfter made) = true ∨
    made + 1 = lastAttempt

theorem passed_of_not_last (further : ¬ Last policy outcomes made) :
    Passed policy outcomes made := by
  unfold Last at further
  rw [not_or, not_or, Decidable.not_not] at further
  exact ⟨further.1, by simpa using further.2.1⟩

theorem Last.remaining (last : Last policy outcomes made) :
    attempts (remaining policy outcomes made).trace = [numberAfter made] ∧
      (remaining policy outcomes made).value = verdict policy (numberAfter made) (outcomes made) := by
  unfold Negotiation.remaining
  by_cases settled : outcomes made = .ok .rejected
  · rw [settled, verdict]
    cases exhausted : policy.exhausted (numberAfter made) with
    | true => exact ask_run_exhausted settled exhausted
    | false =>
        -- Only the count is at its end, so there is no attempt to go on with.
        have none : lastAttempt - 1 - made = 0 := by
          rcases last with other | more | ended
          · exact absurd settled other
          · rw [exhausted] at more
            cases more
          · omega
        rw [none]
        exact ask_run_allowed settled exhausted
  · exact ask_run_settled settled

/-- The negotiation ends with the attempt before which so many were made. -/
structure Stops (policy : RetryPolicy) (outcomes : Nat → Except Fault Reply) (made : Nat) : Prop where
  room : made < lastAttempt
  passed : ∀ place < made, Passed policy outcomes place
  last : Last policy outcomes made

theorem Stops.attempted (stops : Stops policy outcomes made) :
    (attempts (remaining policy outcomes 0).trace).map UInt32.toNat = List.range' 1 (made + 1) := by
  rw [(rejections_passed stops.room stops.passed).1, stops.last.remaining.1, ← numbers_succ]
  exact numbers_to_nat stops.room

theorem Stops.value (stops : Stops policy outcomes made) :
    (remaining policy outcomes 0).value = verdict policy (numberAfter made) (outcomes made) :=
  (rejections_passed stops.room stops.passed).2.trans stops.last.remaining.2

/-- Every negotiation ends, at the latest when no attempt can be counted any more. -/
theorem stops_somewhere (policy : RetryPolicy) (outcomes : Nat → Except Fault Reply) :
    ∃ made, Stops policy outcomes made := by
  classical
  have final : Last policy outcomes (lastAttempt - 1) := .inr (.inr rfl)
  have exists_last : ∃ made, Last policy outcomes made := ⟨lastAttempt - 1, final⟩
  have least : Nat.find exists_last ≤ lastAttempt - 1 := Nat.find_min' exists_last final
  have room : Nat.find exists_last < lastAttempt := Nat.lt_of_le_of_lt least (by decide)
  refine ⟨Nat.find exists_last, room, fun place before => ?_, Nat.find_spec exists_last⟩
  exact passed_of_not_last (Nat.find_min exists_last before)

/-! ## Where a negotiation stops -/

theorem most_pos (bound : UInt32) : 0 < RetryPolicy.most bound :=
  Nat.lt_of_lt_of_le Nat.one_pos (Nat.le_max_left 1 bound.toNat)

theorem most_le_last (bound : UInt32) : RetryPolicy.most bound ≤ lastAttempt := by
  have fits := bound.toNat_lt_size
  have counts : 1 ≤ lastAttempt := by decide
  unfold RetryPolicy.most
  unfold lastAttempt at counts ⊢
  omega

theorem exhausted_at_most {bound : UInt32} (bounded : policy.maxAttempts = some bound) :
    policy.exhausted (numberAfter (RetryPolicy.most bound - 1)) = true := by
  have positive := most_pos bound
  have room := most_le_last bound
  rw [exhausted_iff (by omega)]
  exact ⟨bound, bounded, by omega⟩

/-- No other attempt is made after the most that a policy makes, either because it has had enough or
because the count overflows. -/
theorem limit_reached_iff (room : made < lastAttempt) :
    policy.limit ≤ made + 1 ↔
      policy.exhausted (numberAfter made) = true ∨ made + 1 = lastAttempt := by
  rw [exhausted_iff room, RetryPolicy.limit]
  cases policy.maxAttempts with
  | none =>
      simp only [reduceCtorEq, false_and, exists_false, false_or]
      omega
  | some bound =>
      have within := most_le_last bound
      simp only [Option.some.injEq, exists_eq_left']
      omega

theorem limit_pos (policy : RetryPolicy) : 0 < policy.limit := by
  unfold RetryPolicy.limit
  split
  · decide
  · exact most_pos _

theorem limit_le_last (policy : RetryPolicy) : policy.limit ≤ lastAttempt := by
  unfold RetryPolicy.limit
  split
  · exact Nat.le_refl _
  · exact most_le_last _

theorem Permits.room (permits : policy.Permits (made + 1)) : made < lastAttempt := by
  unfold RetryPolicy.Permits at permits
  cases bounded : policy.maxAttempts with
  | none =>
      simp only [bounded] at permits
      unfold lastAttempt
      omega
  | some bound =>
      simp only [bounded] at permits
      exact Nat.lt_of_lt_of_le (Nat.lt_of_succ_le permits) (most_le_last bound)

/-- Before the last attempt that a policy permits it is not exhausted. -/
theorem allowed_before (permits : policy.Permits (made + 1)) {place : Nat} (before : place < made) :
    policy.exhausted (numberAfter place) = false := by
  have room : place < lastAttempt := Nat.lt_trans before (Permits.room permits)
  by_contra reached
  rw [Bool.not_eq_false, exhausted_iff room] at reached
  obtain ⟨bound, bounded, enough⟩ := reached
  simp only [RetryPolicy.Permits, bounded] at permits
  omega

theorem stops_settled (rejected : ∀ place < made, outcomes place = .ok .rejected)
    (settled : outcomes made ≠ .ok .rejected) (permits : policy.Permits (made + 1)) :
    Stops policy outcomes made where
  room := Permits.room permits
  passed place before := ⟨rejected place before, allowed_before permits before⟩
  last := .inl settled

theorem stops_refused {bound : UInt32} (bounded : policy.maxAttempts = some bound)
    (rejected : ∀ place < RetryPolicy.most bound, outcomes place = .ok .rejected) :
    Stops policy outcomes (RetryPolicy.most bound - 1) := by
  have positive := most_pos bound
  have whole : RetryPolicy.most bound - 1 + 1 = RetryPolicy.most bound := by omega
  have permits : policy.Permits (RetryPolicy.most bound - 1 + 1) := by
    simp only [RetryPolicy.Permits, bounded, whole, Nat.le_refl]
  refine ⟨Permits.room permits, fun place before => ?_, .inr (.inl (exhausted_at_most bounded))⟩
  exact ⟨rejected place (by omega), allowed_before permits before⟩

theorem Stops.within {bound : UInt32} (stops : Stops policy outcomes made)
    (bounded : policy.maxAttempts = some bound) : made + 1 ≤ RetryPolicy.most bound := by
  by_contra beyond
  have positive := most_pos bound
  have before : RetryPolicy.most bound - 1 < made := by omega
  have allowed := (stops.passed _ before).allowed
  rw [exhausted_at_most bounded] at allowed
  cases allowed

/-- Without a bound rejections are passed as long as attempts can be counted. -/
theorem Stops.beyond (stops : Stops policy outcomes made) (unbounded : policy.maxAttempts = none)
    {count : Nat} (countable : count + 1 < UInt32.size)
    (rejected : ∀ place < count, outcomes place = .ok .rejected) : count ≤ made := by
  by_contra before
  rcases stops.last with settled | exhausted | final
  · exact settled (rejected made (by omega))
  · obtain ⟨bound, bounded, _⟩ := (exhausted_iff stops.room).mp exhausted
    rw [unbounded] at bounded
    cases bounded
  · unfold lastAttempt at final
    omega

theorem verdict_ok {outcome : Except Fault Reply} {count : UInt32}
    (agreed : verdict policy number outcome = .ok count) :
    outcome = .ok .accepted ∧ count = number := by
  rcases outcome with fault | reply
  · cases agreed
  · cases reply with
    | accepted =>
        cases agreed
        exact ⟨rfl, rfl⟩
    | _ => cases agreed

/-- Only a policy with a bound refuses, if the attempt itself has not failed so. -/
theorem verdict_refused {outcome : Except Fault Reply} {count : UInt32}
    (refused : verdict policy number outcome = .error (.refused count)) :
    outcome = .error (.refused count) ∨ policy.exhausted number = true := by
  rcases outcome with fault | reply
  · cases refused
    exact .inl rfl
  · cases reply with
    | rejected =>
        cases exhausted : policy.exhausted number with
        | true => exact .inr rfl
        | false =>
            rw [verdict, exhausted] at refused
            cases refused
    | _ => cases refused

theorem verdict_overflow {outcome : Except Fault Reply}
    (overflowed : verdict policy number outcome = .error .countOverflow) :
    outcome = .error .countOverflow ∨
      outcome = .ok .rejected ∧ policy.exhausted number = false := by
  rcases outcome with fault | reply
  · cases overflowed
    exact .inl rfl
  · cases reply with
    | rejected =>
        cases exhausted : policy.exhausted number with
        | true =>
            rw [verdict, exhausted] at overflowed
            cases overflowed
        | false => exact .inr ⟨rfl, rfl⟩
    | _ => cases overflowed

/-- The count does not overflow under a bound, of which the greatest is the last number there is. -/
theorem Stops.countable {bound : UInt32} (stops : Stops policy outcomes made)
    (bounded : policy.maxAttempts = some bound) (rejected : outcomes made = .ok .rejected) :
    policy.exhausted (numberAfter made) = true := by
  rcases stops.last with settled | exhausted | final
  · exact absurd rejected settled
  · exact exhausted
  · have within := most_le_last bound
    rw [exhausted_iff stops.room]
    exact ⟨bound, bounded, by omega⟩

/-- The attempts that are left matter only where a rejection lets the negotiation go on. -/
theorem ask_from_left {other : Nat}
    (same : policy.exhausted number = false → goingOn policy left number = goingOn policy other number) :
    askFrom policy left number = askFrom policy other number := by
  have rejecting : afterReply policy left number .rejected =
      afterReply policy other number .rejected := by
    cases exhausted : policy.exhausted number with
    | true => simp only [afterReply, exhausted, if_true]
    | false => simp only [afterReply, exhausted, same exhausted]
  rw [ask_from_eq, ask_from_eq]
  refine congrArg (Program.ask (attempt number)) (funext fun answer => ?_)
  rcases answer with fault | reply
  · rfl
  · cases reply with
    | rejected => exact rejecting
    | _ => rfl

/-- A policy with a bound ends the negotiation before the count of attempts does: with more attempts
to count it would be the same. -/
theorem ask_from_bounded {bound : UInt32} (bounded : policy.maxAttempts = some bound)
    (within : bound.toNat ≤ number.toNat + left) (more : Nat) :
    askFrom policy (left + more) number = askFrom policy left number := by
  have below : policy.exhausted number = false → number.toNat < bound.toNat := by
    intro allowed
    simpa [RetryPolicy.exhausted, bounded, UInt32.lt_iff_toNat_lt] using allowed
  induction left generalizing number with
  | zero =>
      apply ask_from_left
      intro allowed
      have further := below allowed
      omega
  | succ less induction =>
      apply ask_from_left
      intro allowed
      have further := below allowed
      have next : (number + 1).toNat = number.toNat + 1 := by
        have fits := bound.toNat_lt_size
        rw [UInt32.toNat_add, UInt32.toNat_one]
        exact Nat.mod_eq_of_lt (by unfold UInt32.size at fits; omega)
      have nextWithin : bound.toNat ≤ (number + 1).toNat + less := by omega
      rw [Nat.succ_add]
      refine induction nextWithin fun unexhausted => ?_
      simpa [RetryPolicy.exhausted, bounded, UInt32.lt_iff_toNat_lt] using unexhausted

/-- A rejection never decides anything but the end of a policy with a bound. Up to the first outcome
that is none the attempts are numbered from one on, and this outcome decides; if there is none among
the most attempts of a bound, the peer has refused that often. So only an agreement makes a success.
Without a bound no rejection makes an end as long as attempts can be counted, and there is no
refusal but one that an attempt itself has failed with. With a bound the count, of which the greatest
is the greatest bound, never overflows: with more to count the negotiation would be the same. -/
theorem negotiation_exact (policy : RetryPolicy) (outcomes : Nat → Except Fault Reply) :
    let ended := (negotiate policy).run (inTurn outcomes) 0
    let attempted := (attempts ended.trace).map UInt32.toNat
    (∀ rejections, (∀ place < rejections, outcomes place = .ok .rejected) →
      outcomes rejections ≠ .ok .rejected → policy.Permits (rejections + 1) →
        attempted = List.range' 1 (rejections + 1) ∧
        (outcomes rejections = .ok .accepted →
          ∃ number, ended.value = .ok number ∧ number.toNat = rejections + 1) ∧
        (∀ statePort heartbeatPort, outcomes rejections = .ok (.start statePort heartbeatPort) →
          ended.value = .error (.protocol "disconnect response malformed: got a Start message")) ∧
        (∀ cause, outcomes rejections = .ok (.malformed cause) →
          ended.value = .error (.protocol ("disconnect response malformed: " ++ cause.message))) ∧
        (∀ fault, outcomes rejections = .error fault → ended.value = .error fault)) ∧
    (∀ bound, policy.maxAttempts = some bound →
      (∀ place < max 1 bound.toNat, outcomes place = .ok .rejected) →
        attempted = List.range' 1 (max 1 bound.toNat) ∧
          ∃ number, ended.value = .error (.refused number) ∧ number.toNat = max 1 bound.toNat) ∧
    (∀ number, ended.value = .ok number → ∃ rejections, number.toNat = rejections + 1 ∧
      outcomes rejections = .ok .accepted ∧ ∀ place < rejections, outcomes place = .ok .rejected) ∧
    (policy.maxAttempts = none →
      (∀ rejections, rejections + 1 < UInt32.size →
        (∀ place < rejections, outcomes place = .ok .rejected) → rejections < attempted.length) ∧
        ∀ number, ended.value = .error (.refused number) →
          ∃ place, outcomes place = .error (.refused number)) ∧
    (∀ bound, policy.maxAttempts = some bound →
      (∃ made, made ≤ max 1 bound.toNat ∧ attempted = List.range' 1 made) ∧
        (ended.value = .error .countOverflow → ∃ place, outcomes place = .error .countOverflow) ∧
        ∀ more, askFrom policy (lastAttempt - 1 + more) 1 = negotiate policy) := by
  obtain ⟨made, stops⟩ := stops_somewhere policy outcomes
  rw [negotiate_run]
  intro ended attempted
  refine ⟨?_, ?_, ?_, ?_, ?_⟩
  · intro rejections rejected settled permits
    have here := stops_settled rejected settled permits
    have value : ended.value = verdict policy (numberAfter rejections) (outcomes rejections) :=
      here.value
    refine ⟨here.attempted, fun agreed => ?_, fun statePort heartbeatPort start => ?_,
      fun cause malformed => ?_, fun fault failed => ?_⟩
    · rw [agreed] at value
      exact ⟨numberAfter rejections, value, number_after_to_nat here.room⟩
    · rw [start] at value
      exact value
    · rw [malformed] at value
      exact value
    · rw [failed] at value
      exact value
  · intro bound bounded rejected
    have positive := most_pos bound
    have here := stops_refused bounded rejected
    have whole : RetryPolicy.most bound - 1 + 1 = max 1 bound.toNat :=
      Nat.sub_add_cancel positive
    have value : ended.value = _ := here.value
    rw [rejected _ (by unfold RetryPolicy.most at positive ⊢; omega), verdict,
      exhausted_at_most bounded, if_pos rfl] at value
    have attempts : attempted = _ := here.attempted
    have number := number_after_to_nat here.room
    rw [whole] at attempts number
    exact ⟨attempts, _, value, number⟩
  · intro number agreed
    have value : verdict policy (numberAfter made) (outcomes made) = .ok number :=
      stops.value.symm.trans agreed
    obtain ⟨accepted, rfl⟩ := verdict_ok value
    exact ⟨made, number_after_to_nat stops.room, accepted,
      fun place before => (stops.passed place before).rejected⟩
  · intro unbounded
    refine ⟨fun rejections countable rejected => ?_, fun number refused => ?_⟩
    · have passed := stops.beyond unbounded countable rejected
      have attempts : attempted = _ := stops.attempted
      rw [attempts, List.length_range']
      omega
    · rcases verdict_refused (stops.value.symm.trans refused) with failed | exhausted
      · exact ⟨made, failed⟩
      · rw [RetryPolicy.exhausted, unbounded] at exhausted
        cases exhausted
  · intro bound bounded
    refine ⟨⟨made + 1, stops.within bounded, stops.attempted⟩, fun overflowed => ?_, fun more => ?_⟩
    · rcases verdict_overflow (stops.value.symm.trans overflowed) with failed | ⟨rejected, allowed⟩
      · exact ⟨made, failed⟩
      · rw [stops.countable bounded rejected] at allowed
        cases allowed
    · apply ask_from_bounded bounded
      have fits := bound.toNat_lt_size
      rw [UInt32.toNat_one]
      unfold lastAttempt
      omega

/-- A bound of zero is a bound of one. -/
example :
    let ended := (negotiate ⟨some 0, 0⟩).run (inTurn fun _ => .ok .rejected) 0
    attempts ended.trace = [1] ∧ ended.value = .error (.refused 1) := by
  cbv

end Negotiation
end StandIn
