import StandIn.Proofs.Controller.Accounts
import StandIn.Proofs.Controller.Failures

/-!
The counters of a controller account for its whole history. Which commands were handed over for
execution is said by following the scripts line by line, as far as each of them gets.
-/

set_option autoImplicit false

namespace StandIn.Controller

open Wire (Trace Smooth calls isOpening isHeard isLoss isLeave isRelease)

variable {State : Type}

/-! ## What is handed over for execution -/

def begunFollowing (behaviour : Behaviour Wire.Answer State) (number : Nat) :
    List String → Controller → State → List Begun
  | [], _, _ => []
  | line :: rest, controller, start =>
    match Command.ofLine number line with
    | .error _ => []
    | .ok none => begunFollowing behaviour (number + 1) rest controller start
    | .ok (some command) =>
      let ended := enact behaviour (execute command) controller start
      ⟨command, controller.link⟩ :: match ended.value.1 with
        | .error _ => []
        | .ok () => begunFollowing behaviour (number + 1) rest ended.value.2 ended.state

def begunTaking (behaviour : Behaviour Wire.Answer State) :
    Step → Controller → State → List Begun
  | .run lines, controller, start => begunFollowing behaviour 1 lines controller start
  | .execute command, controller, _ => [⟨command, controller.link⟩]
  | .finish, _, _ => []

def begun (behaviour : Behaviour Wire.Answer State) :
    List Step → Controller → State → List Begun
  | [], _, _ => []
  | step :: rest, controller, start =>
    let ended := enact behaviour (take step) controller start
    begunTaking behaviour step controller start ++ begun behaviour rest ended.value.2 ended.state

/-! ## The books of scripts and histories -/

variable (behaviour : Behaviour Wire.Answer State) (start : State) (controller : Controller)

theorem execute_accounts (command : Command) :
    let ended := enact behaviour (execute command) controller start
    Accounts [⟨command, controller.link⟩] ended.trace controller ended.value.2 :=
  (executing (enact_outcome behaviour (execute command) controller start)).accounts

theorem follow_accounts (number : Nat) (lines : List String) :
    let ended := enact behaviour (follow number lines) controller start
    Accounts (begunFollowing behaviour number lines controller start) ended.trace controller
      ended.value.2 := by
  intro ended
  induction lines generalizing number controller start with
  | nil => exact accounts_nothing controller
  | cons line rest induction =>
      cases read : Command.ofLine number line with
      | error fault =>
          simp only [ended, begunFollowing, read, follow_cons_error read]
          exact accounts_nothing controller
      | ok found =>
          cases found with
          | none =>
              simp only [ended, begunFollowing, read, follow_cons_none read]
              exact induction start controller (number + 1)
          | some command =>
              have first := execute_accounts behaviour start controller command
              cases executed : (enact behaviour (execute command) controller start).value.1 with
              | error fault =>
                  simp only [ended, begunFollowing, read, follow_cons_some read, executed,
                    enact_bind_error _ executed]
                  exact first
              | ok =>
                  simp only [ended, begunFollowing, read, follow_cons_some read, executed,
                    enact_bind_ok _ executed]
                  exact first.append (induction _ _ (number + 1))

/-- The end of a script and the reading of its counters make no entry but those of the end. -/
theorem ending_accounts :
    let ended := enact behaviour (do finish; return (← get).stats : Action Stats) controller start
    Accounts [] ended.trace controller ended.value.2 := by
  intro ended
  have outcome := enact_outcome behaviour (do finish; return (← get).stats : Action Stats)
    controller start
  rcases outcome_bind outcome with
    ⟨fault, _, failed⟩ | ⟨_, first, last, none, finished, counted, split⟩
  · exact (finishing failed).accounts
  · obtain ⟨rfl, _, same⟩ := outcome_done rfl counted
    have books := (finishing finished).accounts
    rw [List.append_nil] at split
    simp only [ended, split, same]
    exact books

theorem run_accounts (lines : List String) :
    let ended := enact behaviour (run lines) controller start
    Accounts (begunFollowing behaviour 1 lines controller start) ended.trace controller
      ended.value.2 := by
  intro ended
  have lived := follow_accounts behaviour start controller 1 lines
  unfold ended run
  cases followed : (enact behaviour (follow 1 lines) controller start).value.1 with
  | error fault =>
      rw [enact_bind_error _ followed]
      exact lived
  | ok =>
      let there := enact behaviour (follow 1 lines) controller start
      have both := lived.append (ending_accounts behaviour there.state there.value.2)
      rw [List.append_nil] at both
      rw [enact_bind_ok _ followed]
      exact both

theorem enact_map {Value Result : Type} (change : Value → Result) (action : Action Value) :
    enact behaviour (do return change (← action)) controller start =
      let ended := enact behaviour action controller start
      ⟨ended.trace, (ended.value.1.map change, ended.value.2), ended.state⟩ := by
  cases ended : (enact behaviour action controller start).value.1 with
  | error fault =>
      rw [enact_bind_error _ ended]
      simp only [ended]
      rfl
  | ok value =>
      have changed : ∀ there state, enact behaviour (pure (change value) : Action Result) there state =
          ⟨[], (.ok (change value), there), state⟩ := fun _ _ => rfl
      rw [enact_bind_ok _ ended]
      simp only [ended, changed, List.append_nil]
      rfl

theorem take_accounts (step : Step) :
    let ended := enact behaviour (take step) controller start
    Accounts (begunTaking behaviour step controller start) ended.trace controller
      ended.value.2 := by
  intro ended
  cases step with
  | run lines =>
      have same : take (.run lines) = do return some (← run lines) := map_eq_pure_bind _ _
      simp only [ended, same, enact_map]
      exact run_accounts behaviour start controller lines
  | execute command =>
      have same : take (.execute command) = do return (fun _ => none) (← execute command) := rfl
      simp only [ended, same, enact_map]
      exact execute_accounts behaviour start controller command
  | finish =>
      have same : take .finish = do return (fun _ => none) (← finish) := rfl
      simp only [ended, same, enact_map]
      exact (finishing (enact_outcome behaviour finish controller start)).accounts

theorem run_converse_all_cons (step : Step) (rest : List Step) :
    (controller.converseAll (step :: rest)).run behaviour start =
      let first := enact behaviour (take step) controller start
      let others := (first.value.2.converseAll rest).run behaviour first.state
      ⟨first.trace ++ others.trace, (first.value.1 :: others.value.1, others.value.2),
        others.state⟩ := by
  have same : controller.converseAll (step :: rest) = (controller.converse step).bind fun first =>
      (first.2.converseAll rest).bind fun others =>
        .done (first.1 :: others.1, others.2) := rfl
  rw [same]
  simp only [Program.run_bind, Program.run_done, List.append_nil]
  rfl

theorem history_accounts (steps : List Step) :
    let finished := (controller.converseAll steps).run behaviour start
    Accounts (begun behaviour steps controller start) finished.trace controller
      finished.value.2 := by
  intro finished
  induction steps generalizing controller start with
  | nil => exact accounts_nothing controller
  | cons step rest induction =>
      have first := take_accounts behaviour start controller step
      simp only [finished, run_converse_all_cons, begun]
      exact first.append (induction _ _)

/-! ## Steps that have all succeeded -/

theorem Executing.smooth {command : Command} {before after : Controller} {trace : Trace}
    (executing : Executing command before trace (.ok ()) after) : Smooth (calls trace) := by
  rcases executing.faithful with faithful | ⟨_, _, _, _, same, _⟩
  · exact faithful
  · cases same

theorem Following.smooth {number : Nat} {lines : List String} {before after : Controller}
    {trace : Trace} {result : Except Fault Unit}
    (following : Following number lines before trace result after) (succeeded : result = .ok ()) :
    Smooth (calls trace) := by
  induction following with
  | done => exact .nil
  | unreadable => cases succeeded
  | skipped _ _ _ _ induction => exact induction succeeded
  | stopped => cases succeeded
  | executed _ _ _ _ executing _ induction =>
      rw [Wire.calls_append]
      exact executing.smooth.append (induction succeeded)

theorem Finishing.smooth {before after : Controller} {trace : Trace}
    (finishing : Finishing before trace (.ok ()) after) : Smooth (calls trace) := by
  cases finishing with
  | disconnected => exact .nil
  | kept => exact .nil
  | left session link asked leaving => exact leaving.faithful rfl

theorem Taking.smooth {step : Step} {before after : Controller} {trace : Trace}
    {result : Except Fault (Option Stats)} (taking : Taking step before trace result after)
    (succeeded : result.isOk = true) : Smooth (calls trace) := by
  cases taking with
  | run lines running =>
      cases running with
      | stopped => cases succeeded
      | unfinished => cases succeeded
      | finished following finishing =>
          rw [Wire.calls_append]
          exact (following.smooth rfl).append finishing.smooth
  | @execute command _ _ _ result executing =>
      cases result with
      | error => cases succeeded
      | ok => exact executing.smooth
  | @finish _ _ _ result finishing =>
      cases result with
      | error => cases succeeded
      | ok => exact finishing.smooth

theorem Past.smooth {steps : List Step} {before after : Controller} {trace : Trace}
    {results : List (Except Fault (Option Stats))} (past : Past steps before trace results after)
    (succeeded : ∀ result ∈ results, result.isOk = true) : Smooth (calls trace) := by
  induction past with
  | none => exact .nil
  | step taking _ induction =>
      rw [Wire.calls_append]
      have first := taking.smooth (succeeded _ List.mem_cons_self)
      exact first.append (induction fun result member => succeeded result (.tail _ member))

/-- Where no call has failed for good, every request to be let go was agreed to. -/
theorem leaves_are_releases {trace : Trace} (smooth : Smooth (calls trace)) :
    trace.countP isLeave = trace.countP isRelease := by
  apply List.countP_congr
  intro call member
  cases isCall : Wire.isCall call with
  | false =>
      obtain ⟨request, answer⟩ := call
      cases request <;> first | rfl | cases isCall
  | true =>
      have called : call ∈ calls trace := List.mem_filter.mpr ⟨member, isCall⟩
      rcases smooth.passed call called with unfailing | ⟨session, what⟩
      · rw [Wire.release_of_no_fault unfailing]
      · rfl

/-- Whatever the peer answers and whatever is asked of a controller from its first step on, also
after faults: each counter is the number of commands or calls that it stands for, and the sessions
that were opened are those that were asked to be left, lost, given up by falling silent, or still
open. If no step has failed and no command fell silent, the counters balance by themselves. -/
theorem counters_account_for_history (endpoint : Endpoint) (options : Options)
    (steps : List Step) :
    let finished := ((fresh endpoint options).converseAll steps).run behaviour start
    let handed := begun behaviour steps (fresh endpoint options) start
    let stats := finished.value.2.stats
    let stillOpen := finished.value.2.link.sessions
    stats.commands = handed.length ∧
      stats.handshakes = finished.trace.countP isOpening ∧
      stats.heartbeats = finished.trace.countP isHeard ∧
      stats.disconnects = finished.trace.countP isRelease ∧
      stats.recoveries = finished.trace.countP isLoss ∧
      stats.handshakes = finished.trace.countP isLeave + stats.recoveries +
        handed.countP Begun.givesUp + stillOpen ∧
      ((∀ result ∈ finished.value.1, result.isOk = true) →
        (∀ order ∈ handed, ∀ seconds, order.command ≠ .dieHorribly seconds) →
          stats.handshakes = stats.disconnects + stats.recoveries + stillOpen) := by
  intro finished handed stats stillOpen
  have books := history_accounts behaviour start (fresh endpoint options) steps
  have commands : stats.commands = handed.length := books.commands.trans (Nat.zero_add _)
  have handshakes : stats.handshakes = finished.trace.countP isOpening :=
    books.handshakes.trans (Nat.zero_add _)
  have heartbeats : stats.heartbeats = finished.trace.countP isHeard :=
    books.heartbeats.trans (Nat.zero_add _)
  have disconnects : stats.disconnects = finished.trace.countP isRelease :=
    books.disconnects.trans (Nat.zero_add _)
  have recoveries : stats.recoveries = finished.trace.countP isLoss :=
    books.recoveries.trans (Nat.zero_add _)
  have balance : stats.handshakes = finished.trace.countP isLeave + stats.recoveries +
      handed.countP Begun.givesUp + stillOpen := by
    rw [handshakes, recoveries]
    exact books.balance
  refine ⟨commands, handshakes, heartbeats, disconnects, recoveries, balance, ?_⟩
  intro succeeded awake
  have lived : Past steps (fresh endpoint options) finished.trace finished.value.1 finished.value.2 :=
    past (Program.run_yields behaviour ((fresh endpoint options).converseAll steps) start)
  have agreed := leaves_are_releases (lived.smooth succeeded)
  have noneGivenUp : handed.countP Begun.givesUp = 0 := by
    rw [List.countP_eq_zero]
    rintro ⟨command, link⟩ member
    have stays := awake _ member
    cases command with
    | dieHorribly seconds => exact absurd rfl (stays seconds)
    | _ => exact Bool.false_ne_true
  rw [noneGivenUp, agreed, ← disconnects] at balance
  exact balance

/-- The second heartbeat runs out of time and is made good by a third handshake. -/
theorem counters_account_for_history_recovered :
    let endpoint : Endpoint := ⟨"localhost", 1870, 5001⟩
    let losing : Rehearsal := { heartbeats := [none, some (.timeout "a heartbeat")] }
    let steps : List Step := [.run ["enable light L1", "# skip"], .execute (.enable ⟨"sst", "S1"⟩)]
    let finished := ((fresh endpoint {}).converseAll steps).run Rehearsal.answer losing
    (∀ result ∈ finished.value.1, result.isOk = true) ∧
      finished.value.2.stats = ⟨2, 3, 1, 1, 1⟩ ∧
        finished.value.2.stats.handshakes = finished.value.2.stats.disconnects +
          finished.value.2.stats.recoveries + finished.value.2.link.sessions := by
  intro endpoint losing steps finished
  have succeeded : ∀ result ∈ finished.value.1, result.isOk = true := by decide +kernel
  have handed : begun Rehearsal.answer steps (fresh endpoint {}) losing =
      [⟨.enable ⟨"light", "L1"⟩, .disconnected⟩,
        ⟨.enable ⟨"sst", "S1"⟩, .connected ⟨endpoint, 4000, 4001⟩⟩] := by decide +kernel
  have counters : finished.value.2.stats = ⟨2, 3, 1, 1, 1⟩ := by decide +kernel
  have awake : ∀ order ∈ begun Rehearsal.answer steps (fresh endpoint {}) losing, ∀ seconds,
      order.command ≠ .dieHorribly seconds := by
    intro order member seconds same
    rw [handed] at member
    simp only [List.mem_cons, List.not_mem_nil, or_false] at member
    rcases member with rfl | rfl
    · cases same
    · cases same
  obtain ⟨_, _, _, _, _, _, balances⟩ :=
    counters_account_for_history Rehearsal.answer losing endpoint {} steps
  have balanced := balances succeeded awake
  refine ⟨succeeded, counters, ?_⟩
  unfold finished
  exact balanced

end StandIn.Controller
