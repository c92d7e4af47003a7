import StandIn.Proofs.Controller.Composition

/-!
Sleeping is beating. But for what is told of commands and ticks, a command to sleep is one heartbeat
for each second and one more, so two of them in a row are one of them that lasts as many heartbeats.
-/

set_option autoImplicit false

namespace StandIn.Controller

open Wire (Trace calls)

variable {State Value Result : Type} {behaviour : Behaviour Wire.Answer State}
  {controller : Controller} {start : State}

/-! ## Remarks -/

/-- Telling that a command or a tick begins. -/
def isRemark : Exchange Wire.Answer → Bool
  | ⟨.narrate (.processing _), _⟩ => true
  | ⟨.narrate (.tick _), _⟩ => true
  | _ => false

/-- The trace without remarks. -/
def hushed (trace : Trace) : Trace := trace.filter fun exchange => !isRemark exchange

theorem hushed_append (first second : Trace) :
    hushed (first ++ second) = hushed first ++ hushed second :=
  List.filter_append first second

theorem remark_of_call {exchange : Exchange Wire.Answer} (call : Wire.isCall exchange = true) :
    isRemark exchange = false := by
  obtain ⟨request, answer⟩ := exchange
  cases request with
  | narrate line => cases call
  | _ => rfl

theorem calls_hushed (trace : Trace) : calls (hushed trace) = calls trace := by
  rw [calls, calls, hushed, List.filter_filter]
  refine List.filter_congr fun exchange _ => ?_
  cases call : Wire.isCall exchange with
  | false => rfl
  | true =>
      rw [remark_of_call call]
      rfl

/-- Two runs that differ in nothing but their remarks. -/
structure Alike (first second : Finished Wire.Answer State (Except Fault Value × Controller)) :
    Prop where
  trace : hushed first.trace = hushed second.trace
  value : first.value = second.value
  state : first.state = second.state

theorem Alike.trans {first second third : Finished Wire.Answer State (Except Fault Value × Controller)}
    (near : Alike first second) (far : Alike second third) : Alike first third :=
  ⟨near.trace.trans far.trace, near.value.trans far.value, near.state.trans far.state⟩

/-- Two actions that differ in nothing but their remarks, wherever they begin. -/
def Same (behaviour : Behaviour Wire.Answer State) (action other : Action Value) : Prop :=
  ∀ controller start,
    Alike (enact behaviour action controller start) (enact behaviour other controller start)

theorem Same.refl (action : Action Value) : Same behaviour action action :=
  fun _ _ => ⟨rfl, rfl, rfl⟩

theorem Same.bind {action other : Action Value} {next later : Value → Action Result}
    (same : Same behaviour action other) (after : ∀ value, Same behaviour (next value) (later value)) :
    Same behaviour (action >>= next) (other >>= later) := by
  intro controller start
  have early := same controller start
  cases ended : (enact behaviour action controller start).value.1 with
  | error fault =>
      have also : (enact behaviour other controller start).value.1 = .error fault := by
        rw [← early.value, ended]
      rw [enact_bind_error _ ended, enact_bind_error _ also]
      exact ⟨early.trace, by simp only [early.value], early.state⟩
  | ok value =>
      have also : (enact behaviour other controller start).value.1 = .ok value := by
        rw [← early.value, ended]
      have late := after value (enact behaviour action controller start).value.2
        (enact behaviour action controller start).state
      rw [enact_bind_ok _ ended, enact_bind_ok _ also]
      generalize enact behaviour action controller start = first at early late
      generalize enact behaviour other controller start = second at early
      obtain ⟨told, value, state⟩ := first
      obtain ⟨hush, rfl, rfl⟩ := early
      refine ⟨?_, late.value, late.state⟩
      simp only [hushed_append, hush, late.trace]

/-- Unheard remarks make no difference. -/
theorem same_remark (unheard : Unheard behaviour) (line : Narration)
    (remark : isRemark ⟨.narrate line, ()⟩ = true) (action : Action Value) :
    Same behaviour (do narrate line; action) action := by
  intro controller start
  have told : enact behaviour (do narrate line; action) controller start =
      let rest := enact behaviour action controller (behaviour (.narrate line) start).2
      ⟨⟨.narrate line, ()⟩ :: rest.trace, rest.value, rest.state⟩ := rfl
  rw [told, unheard line start]
  refine ⟨?_, rfl, rfl⟩
  simp [hushed, remark]

/-! ## Heartbeats in a row -/

def beats : Nat → Action Unit
  | 0 => pure ()
  | count + 1 => do
    beat
    beats count

theorem beats_add (first second : Nat) :
    beats (first + second) = (do beats first; beats second : Action Unit) := by
  induction first with
  | zero => rw [Nat.zero_add, beats, pure_bind]
  | succ first induction => rw [Nat.succ_add, beats, beats, induction, bind_assoc]

theorem beats_succ (count : Nat) :
    beats (count + 1) = (do beats count; beat : Action Unit) := by
  have single : beats 1 = beat := bind_pure beat
  rw [beats_add, single]

theorem enact_beat_disconnected (link : controller.link = .disconnected) :
    enact behaviour beat controller start = ⟨[], (.ok (), controller), start⟩ := by
  rw [enact, beat_run_disconnected link, Program.run_done]

theorem enact_beats_disconnected (link : controller.link = .disconnected) (count : Nat) :
    enact behaviour (beats count) controller start = ⟨[], (.ok (), controller), start⟩ := by
  induction count with
  | zero => rfl
  | succ count induction =>
      have silent : enact behaviour beat controller start = ⟨[], (.ok (), controller), start⟩ :=
        enact_beat_disconnected link
      have beaten : (enact behaviour beat controller start).value.1 = .ok () := by rw [silent]
      rw [beats, enact_bind_ok _ beaten, silent]
      exact induction

/-- Idling is one heartbeat for each tick. -/
theorem same_idle (unheard : Unheard behaviour) (tick remaining : Nat) :
    Same behaviour (idle tick remaining) (beats remaining) := by
  induction remaining generalizing tick with
  | zero => exact Same.refl _
  | succ remaining induction =>
      intro controller start
      cases link : controller.link with
      | disconnected =>
          rw [enact_beats_disconnected link, enact, idle_run_disconnected tick remaining link]
          exact ⟨rfl, rfl, rfl⟩
      | connected session =>
          have ticked : enact behaviour (idle tick (remaining + 1)) controller start =
              enact behaviour (do narrate (.tick tick); beat; idle (tick + 1) remaining)
                controller start := by
            rw [enact, idle_run_connected tick remaining link]
            rfl
          have quiet := same_remark unheard (.tick tick) rfl
            (do beat; idle (tick + 1) remaining : Action Unit) controller start
          have rest := (Same.refl beat).bind (fun _ => induction (tick + 1)) controller start
          rw [ticked]
          exact quiet.trans rest

/-! ## Counting commands -/

/-- A command that is counted first makes no difference to a heartbeat, nor the heartbeat to it. -/
theorem beat_run_commanded (before : Controller) :
    beat.run.run before.commanded =
      (beat.run.run before).bind fun ended => .done (ended.1, ended.2.commanded) := by
  cases link : before.link with
  | disconnected =>
      have same : before.commanded.link = .disconnected := link
      rw [beat_run_disconnected link, beat_run_disconnected same]
      rfl
  | connected session =>
      have same : before.commanded.link = .connected session := link
      rw [beat_run_connected link, beat_run_connected same, Program.ask_bind]
      refine congrArg (Program.ask _) (funext fun answered => ?_)
      cases answered with
      | ok => rfl
      | error fault =>
          cases timeout : fault.isTimeout with
          | false => simp [timeout]
          | true =>
              simp only [timeout, if_true, Program.ask_bind, announce_run]
              refine congrArg (Program.ask _) (funext fun _ => congrArg (Program.ask _) ?_)
              funext offered
              cases offered <;> rfl

theorem beats_run_commanded (count : Nat) (before : Controller) :
    (beats count).run.run before.commanded =
      ((beats count).run.run before).bind fun ended => .done (ended.1, ended.2.commanded) := by
  induction count generalizing before with
  | zero => rfl
  | succ count induction =>
      rw [beats, run_bind, run_bind, beat_run_commanded, Program.bind_bind, Program.bind_bind]
      refine congrArg (Program.bind _) (funext fun ended => ?_)
      obtain ⟨result, middle⟩ := ended
      cases result with
      | error fault => rfl
      | ok => exact induction middle

variable (behaviour controller start) in
theorem enact_beats_commanded (count : Nat) :
    enact behaviour (beats count) controller.commanded start =
      let ended := enact behaviour (beats count) controller start
      ⟨ended.trace, (ended.value.1, ended.value.2.commanded), ended.state⟩ := by
  rw [enact, beats_run_commanded, Program.run_bind]
  simp only [Program.run_done, List.append_nil, enact]

/-! ## Sleeping twice -/

theorem sleep_alike (unheard : Unheard behaviour) (controller : Controller) (start : State)
    (seconds : Nat) :
    Alike (enact behaviour (execute (.sleep seconds)) controller start)
      (enact behaviour (beats (seconds + 1)) controller.commanded start) := by
  have told := same_remark unheard (.processing (.sleep seconds)) rfl
    (do idle 0 seconds; beat : Action Unit) controller.commanded start
  have idled := (same_idle unheard 0 seconds).bind fun _ => Same.refl beat
  rw [beats_succ]
  exact told.trans (idled controller.commanded start)

/-- Of two commands to sleep, the second is told and counted apart from the first, and nothing else
tells them from the one command. -/
theorem sleep_sleep (unheard : Unheard behaviour) (controller : Controller) (start : State)
    (first second : Nat) :
    let early := enact behaviour (execute (.sleep first)) controller start
    let twice := enact behaviour (do execute (.sleep first); execute (.sleep second)) controller start
    let once := enact behaviour (execute (.sleep (first + second + 1))) controller start
    hushed twice.trace = hushed once.trace ∧ twice.value.1 = once.value.1 ∧
      twice.state = once.state ∧
      twice.value.2 = match early.value.1 with
        | .ok () => once.value.2.commanded
        | .error _ => once.value.2 := by
  intro early twice once
  have alike : Alike early _ := sleep_alike unheard controller start first
  have whole : Alike once _ := sleep_alike unheard controller start (first + second + 1)
  have parts : first + second + 1 + 1 = (first + 1) + (second + 1) := by omega
  rw [parts, beats_add] at whole
  cases ended : early.value.1 with
  | error fault =>
      have stopped : twice = ⟨early.trace, (.error fault, early.value.2), early.state⟩ :=
        enact_bind_error _ ended
      have beaten := ended
      rw [alike.value] at beaten
      rw [enact_bind_error _ beaten] at whole
      rw [stopped]
      refine ⟨alike.trace.trans whole.trace.symm, ?_, alike.state.trans whole.state.symm, ?_⟩
      · simp only [whole.value]
      · simp only [whole.value, alike.value]
  | ok =>
      -- What is counted for the second command can as well be counted behind it.
      have rest : Alike _ _ := sleep_alike unheard early.value.2 early.state second
      rw [enact_beats_commanded] at rest
      have went : twice = _ := enact_bind_ok _ ended
      have beaten := ended
      rw [alike.value] at beaten
      rw [enact_bind_ok _ beaten] at whole
      simp only [← alike.value, ← alike.state] at whole
      rw [went]
      refine ⟨?_, ?_, rest.state.trans whole.state.symm, ?_⟩
      · simp only [whole.trace, hushed_append]
        rw [← alike.trace]
        exact congrArg _ rest.trace
      · have result := congrArg Prod.fst rest.value
        simp only [whole.value]
        exact result
      · have after := congrArg Prod.snd rest.value
        simp only [whole.value]
        exact after

end StandIn.Controller
