import Mathlib.Data.List.Induction
import Mathlib.Data.Multiset.AddSub
import StandIn.Proofs.Wire.Chronicle

/-!
What a replay leaves in the roster, told from the log of all devices that were enabled and from the
devices that were disabled. Of equal devices the roster keeps those that were enabled last, as many
as were not disabled, and all that it keeps stands in the order of the log.
-/

set_option autoImplicit false

namespace StandIn

def Command.enabled? : Command → Option Device
  | .enable device => some device
  | _ => none

/-- Every device that was to be enabled, in order. -/
def enabledBy (commands : List Command) : List Device := commands.filterMap Command.enabled?

theorem enabled_by_append (first second : List Command) :
    enabledBy (first ++ second) = enabledBy first ++ enabledBy second :=
  List.filterMap_append

namespace Roster

/-- The device that a command takes out of the roster. -/
def taken? (roster : Roster) : Command → Option Device
  | .disable device =>
    match roster.disable device with
    | .ok (found, _) => some found
    | .error _ => none
  | _ => none

/-- Every device that was taken out of the roster in the course of the commands, in order. -/
def taken (roster : Roster) : List Command → List Device
  | [] => []
  | command :: rest => (roster.taken? command).toList ++ (command.applied roster).taken rest

theorem taken_append (roster : Roster) (first second : List Command) :
    roster.taken (first ++ second) = roster.taken first ++ (roster.replay first).taken second := by
  induction first generalizing roster with
  | nil => rfl
  | cons command rest induction =>
      rw [List.cons_append, taken, taken, induction, List.append_assoc]
      rfl

/-- Of each device the last ones of the log, as many as its quota is. -/
def keepLast (quota : Device → Nat) : List Device → List Device
  | [] => []
  | device :: later =>
    if later.count device < quota device then device :: keepLast quota later else keepLast quota later

/-! ## Keeping the last devices of a log -/

variable {quota other : Device → Nat} {log : List Device} {device : Device}

theorem count_single (device each : Device) :
    [device].count each = if each = device then 1 else 0 := by
  by_cases same : each = device
  · simp [same]
  · simp [same, Ne.symm same]

theorem keep_last_sublist (quota : Device → Nat) (log : List Device) :
    (keepLast quota log).Sublist log := by
  induction log with
  | nil => exact .slnil
  | cons first later induction =>
      unfold keepLast
      split
      · exact induction.cons_cons first
      · exact induction.cons first

theorem count_keep_last (quota : Device → Nat) (log : List Device) (device : Device) :
    (keepLast quota log).count device = min (quota device) (log.count device) := by
  induction log with
  | nil => simp [keepLast]
  | cons first later induction =>
      unfold keepLast
      by_cases same : first = device
      · subst same
        split
        · rw [List.count_cons_self, List.count_cons_self, induction]
          omega
        · rw [List.count_cons_self, induction]
          omega
      · split
        · rw [List.count_cons_of_ne same, List.count_cons_of_ne same, induction]
        · rw [List.count_cons_of_ne same, induction]

/-- To keep more of a device than there are in the log is to keep all of them. -/
theorem keep_last_congr (same : ∀ device, quota device = other device ∨
      log.count device ≤ quota device ∧ log.count device ≤ other device) :
    keepLast quota log = keepLast other log := by
  induction log with
  | nil => rfl
  | cons first later induction =>
      have alike : later.count first < quota first ↔ later.count first < other first := by
        have here := same first
        rw [List.count_cons_self] at here
        omega
      have behind : keepLast quota later = keepLast other later := by
        apply induction
        intro device
        have here := same device
        have fewer : later.count device ≤ (first :: later).count device :=
          (List.sublist_cons_self first later).count_le device
        omega
      simp only [keepLast, alike, behind]

/-- A device enabled last is kept, and what was kept of the log before it still is. -/
theorem keep_last_append (quota : Device → Nat) (log : List Device) (device : Device) :
    keepLast (fun each => quota each + [device].count each) (log ++ [device]) =
      keepLast quota log ++ [device] := by
  induction log with
  | nil => simp [keepLast]
  | cons first later induction =>
      have alike : (later ++ [device]).count first < quota first + [device].count first ↔
          later.count first < quota first := by
        rw [List.count_append]
        omega
      rw [List.cons_append]
      simp only [keepLast, alike, induction]
      split <;> rfl

/-- The first of the kept ones is the next not to be kept. -/
theorem keep_last_erase (positive : 0 < quota device) (enough : quota device ≤ log.count device) :
    (keepLast quota log).erase device =
      keepLast (fun each => quota each - [device].count each) log := by
  induction log with
  | nil => simp at enough; omega
  | cons first later induction =>
      by_cases same : first = device
      · subst same
        rw [List.count_cons_self] at enough
        by_cases here : later.count first < quota first
        · -- All that comes later is kept before and afterwards.
          have beyond : ¬ later.count first < quota first - [first].count first := by
            rw [List.count_singleton_self]
            omega
          have rest : keepLast quota later =
              keepLast (fun each => quota each - [first].count each) later := by
            apply keep_last_congr
            intro each
            by_cases equal : each = first
            · subst equal
              rw [List.count_singleton_self]
              omega
            · have none : [first].count each = 0 := by rw [count_single, if_neg equal]
              omega
          simp only [keepLast, if_pos here, if_neg beyond, List.erase_cons_head, rest]
        · have beyond : ¬ later.count first < quota first - [first].count first := by omega
          simp only [keepLast, if_neg here, if_neg beyond]
          exact induction (by omega)
      · have none : [device].count first = 0 := by rw [count_single, if_neg same]
        rw [List.count_cons_of_ne same] at enough
        simp only [keepLast, none, Nat.sub_zero]
        split
        · rw [List.erase_cons_tail (by simpa using same), induction enough]
        · exact induction enough

/-! ## The roster and its log -/

theorem disable_ok_iff {roster after : Roster} {device found : Device} :
    roster.disable device = .ok (found, after) ↔
      device ∈ roster.devices ∧ found = device ∧ after.devices = roster.devices.erase device := by
  unfold disable
  rw [take_first_eq_erase]
  by_cases member : device ∈ roster.devices
  · rw [if_pos member]
    constructor
    · intro same
      cases same
      exact ⟨member, rfl, rfl⟩
    · rintro ⟨_, rfl, same⟩
      rw [← same]
  · simp [member]

/-- How many of a device are kept: those that were enabled and not taken out again. -/
def kept (commands : List Command) (device : Device) : Nat :=
  (enabledBy commands).count device - (empty.taken commands).count device

/-- The roster is what is left of the log, and nothing was taken out that had not been enabled. -/
structure Replayed (commands : List Command) : Prop where
  left : (empty.replay commands).devices = keepLast (kept commands) (enabledBy commands)
  covered : ∀ device, (empty.taken commands).count device ≤ (enabledBy commands).count device

variable {commands : List Command}

theorem Replayed.count (replayed : Replayed commands) (device : Device) :
    (empty.replay commands).devices.count device = kept commands device := by
  have fewer : kept commands device ≤ (enabledBy commands).count device := Nat.sub_le _ _
  rw [replayed.left, count_keep_last]
  omega

theorem Replayed.mem_iff (replayed : Replayed commands) (device : Device) :
    device ∈ (empty.replay commands).devices ↔
      (empty.taken commands).count device < (enabledBy commands).count device := by
  rw [← List.count_pos_iff, replayed.count, kept]
  omega

/-! ## One more command -/

variable {command : Command}

theorem replay_then (commands : List Command) (command : Command) :
    empty.replay (commands ++ [command]) = command.applied (empty.replay commands) :=
  replay_append empty commands [command]

theorem enabled_by_then (commands : List Command) (command : Command) :
    enabledBy (commands ++ [command]) = enabledBy commands ++ command.enabled?.toList := by
  rw [enabled_by_append]
  cases command <;> rfl

theorem taken_then (commands : List Command) (command : Command) :
    empty.taken (commands ++ [command]) =
      empty.taken commands ++ ((empty.replay commands).taken? command).toList := by
  rw [taken_append, taken, taken, List.append_nil]

theorem Replayed.enable (replayed : Replayed commands) (device : Device) :
    Replayed (commands ++ [.enable device]) := by
  have log : enabledBy (commands ++ [.enable device]) = enabledBy commands ++ [device] :=
    enabled_by_then commands (.enable device)
  have out : empty.taken (commands ++ [.enable device]) = empty.taken commands := by
    rw [taken_then]
    exact List.append_nil _
  have one_more : kept (commands ++ [.enable device]) =
      fun each => kept commands each + [device].count each := by
    funext each
    have covered := replayed.covered each
    rw [kept, kept, log, out, List.count_append]
    omega
  constructor
  · rw [replay_then, log, one_more, keep_last_append, ← replayed.left]
    rfl
  · intro each
    have covered := replayed.covered each
    rw [log, out, List.count_append]
    omega

theorem Replayed.disable (replayed : Replayed commands) {device found : Device} {after : Roster}
    (disabled : (empty.replay commands).disable device = .ok (found, after)) :
    Replayed (commands ++ [.disable device]) := by
  obtain ⟨member, rfl, erased⟩ := disable_ok_iff.mp disabled
  have log : enabledBy (commands ++ [.disable found]) = enabledBy commands := by
    rw [enabled_by_then]
    exact List.append_nil _
  have out : empty.taken (commands ++ [.disable found]) = empty.taken commands ++ [found] := by
    rw [taken_then]
    simp only [taken?, disabled, Option.toList_some]
  have same : empty.replay (commands ++ [.disable found]) = after := by
    rw [replay_then]
    simp only [Command.applied, disabled]
  have one_less : kept (commands ++ [.disable found]) =
      fun each => kept commands each - [found].count each := by
    funext each
    rw [kept, kept, log, out, List.count_append, Nat.sub_add_eq]
  have fewer := (replayed.mem_iff found).mp member
  constructor
  · rw [same, erased, replayed.left, log, one_less]
    apply keep_last_erase
    · exact Nat.sub_pos_of_lt fewer
    · exact Nat.sub_le _ _
  · intro each
    have covered := replayed.covered each
    rw [log, out, List.count_append, count_single]
    split
    · next equal =>
      subst equal
      exact fewer
    · exact covered

/-- A command that has no effect on the roster leaves its log as it is, and nothing is taken out. -/
theorem Replayed.ignore (replayed : Replayed commands) (unlogged : command.enabled? = none)
    (untaken : (empty.replay commands).taken? command = none)
    (unchanged : command.applied (empty.replay commands) = empty.replay commands) :
    Replayed (commands ++ [command]) := by
  have log : enabledBy (commands ++ [command]) = enabledBy commands := by
    rw [enabled_by_then, unlogged, Option.toList_none, List.append_nil]
  have out : empty.taken (commands ++ [command]) = empty.taken commands := by
    rw [taken_then, untaken, Option.toList_none, List.append_nil]
  have alike : kept (commands ++ [command]) = kept commands := by
    funext each
    rw [kept, kept, log, out]
  constructor
  · rw [replay_then, unchanged, log, alike]
    exact replayed.left
  · rw [log, out]
    exact replayed.covered

theorem replayed (commands : List Command) : Replayed commands := by
  induction commands using List.reverseRecOn with
  | nil => exact ⟨rfl, fun _ => Nat.le_refl 0⟩
  | append_singleton commands command induction =>
      cases command with
      | enable device => exact induction.enable device
      | disable device =>
          cases disabled : (empty.replay commands).disable device with
          | error fault =>
              apply induction.ignore rfl
              · simp only [taken?, disabled]
              · simp only [Command.applied, disabled]
          | ok ended => exact induction.disable disabled
      | dieHorribly seconds => exact induction.ignore rfl rfl rfl
      | sleep seconds => exact induction.ignore rfl rfl rfl

/-! ## The law of replay -/

/-- The commands are taken in order, and the replay goes on over a device that cannot be disabled.
After any of them a device can be disabled exactly if it was enabled more often than taken out. If
it cannot, the fault names it and nothing changes; if it can, the first device equal to it is taken
out. What is left is the log of all that was enabled, of which only the last ones of each device are
kept, as many as were not taken out: the difference as multisets, in the order of the log. -/
theorem replay_law (commands : List Command) :
    let roster := empty.replay commands
    let log := enabledBy commands
    let gone := empty.taken commands
    (∀ device,
      ((∃ fault, roster.disable device = .error fault) ↔ log.count device ≤ gone.count device) ∧
      (∀ fault, roster.disable device = .error fault → fault = .notEnabled device ∧
        fault.message = "device '" ++ (device.kind ++ " " ++ device.name) ++ "' is not enabled" ∧
          (Command.disable device).applied roster = roster) ∧
      (∀ found after, roster.disable device = .ok (found, after) → found = device ∧
        after.devices = roster.devices.erase device ∧
          (Command.disable device).applied roster = after)) ∧
    roster.devices = keepLast (fun device => log.count device - gone.count device) log ∧
    (roster.devices : Multiset Device) = (log : Multiset Device) - (gone : Multiset Device) ∧
    (gone : Multiset Device) ≤ (log : Multiset Device) ∧
    roster.devices.Sublist log := by
  have replayed := replayed commands
  intro roster log gone
  refine ⟨fun device => ⟨?_, fun fault failed => ?_, fun found after disabled => ?_⟩,
    replayed.left, ?_, ?_, ?_⟩
  · have absent : (∃ fault, roster.disable device = .error fault) ↔ device ∉ roster.devices := by
      simp only [disable_eq_error_iff, exists_and_left, exists_eq, and_true]
    rw [absent, replayed.mem_iff, Nat.not_lt]
  · obtain ⟨_, rfl⟩ := disable_eq_error_iff.mp failed
    refine ⟨rfl, rfl, ?_⟩
    simp only [Command.applied, failed]
  · obtain ⟨_, same, erased⟩ := disable_ok_iff.mp disabled
    refine ⟨same, erased, ?_⟩
    simp only [Command.applied, disabled]
  · ext device
    rw [Multiset.count_sub, Multiset.coe_count, Multiset.coe_count, Multiset.coe_count]
    exact replayed.count device
  · rw [Multiset.le_iff_count]
    intro device
    rw [Multiset.coe_count, Multiset.coe_count]
    exact replayed.covered device
  · rw [replayed.left]
    exact keep_last_sublist _ _

end Roster
end StandIn
