import StandIn.Proofs.Controller.Outcome

/-!
What can come of a command, of the end of a script, and of a whole script. As for the exchanges
below them, each has a relation with one constructor for each way through it.
-/

set_option autoImplicit false

namespace StandIn.Controller

open Wire (Trace)

/-! ## Announcing anew -/

inductive Reannouncing (before : Controller) : Trace → Except Fault Unit → Controller → Prop where
  | disconnected (link : before.link = .disconnected) {trace : Trace} {result : Except Fault Unit}
      {after : Controller} (announcing : Announcing before trace result after) :
      Reannouncing before trace result after
  | stuck (session : Session) (link : before.link = .connected session) (fault : Fault) :
      Reannouncing before [⟨.disconnect session, .error fault⟩] (.error fault) before.closed
  | released (session : Session) (link : before.link = .connected session) {trace : Trace}
      {result : Except Fault Unit} {after : Controller}
      (announcing : Announcing before.closed.released trace result after) :
      Reannouncing before (⟨.disconnect session, .ok ()⟩ :: trace) result after

theorem reannounce_run_disconnected {before : Controller} (link : before.link = .disconnected) :
    reannounce.run.run before = announce.run.run before := by
  cases before
  cases link
  rfl

theorem reannounce_run_connected {before : Controller} {session : Session}
    (link : before.link = .connected session) :
    reannounce.run.run before = (do leave session; announce : Action Unit).run.run before.closed := by
  cases before
  cases link
  rfl

theorem reannouncing {before after : Controller} {trace : Trace} {result : Except Fault Unit}
    (outcome : Outcome reannounce before trace result after) :
    Reannouncing before trace result after := by
  unfold Outcome at outcome
  cases link : before.link with
  | disconnected =>
      rw [reannounce_run_disconnected link] at outcome
      exact .disconnected link (announcing outcome)
  | connected session =>
      rw [reannounce_run_connected link] at outcome
      rcases outcome_bind outcome with
        ⟨fault, rfl, failed⟩ | ⟨_, first, middle, rest, left, announced, rfl⟩
      · cases leaving failed with
        | failed => exact .stuck session link fault
      · cases leaving left with
        | agreed => exact .released session link (announcing announced)

/-! ## Idling -/

inductive Idling : Nat → Nat → Controller → Trace → Except Fault Unit → Controller → Prop where
  | done (tick : Nat) (before : Controller) : Idling tick 0 before [] (.ok ()) before
  | disconnected (tick remaining : Nat) {before : Controller} (link : before.link = .disconnected) :
      Idling tick (remaining + 1) before [] (.ok ()) before
  | failed (tick remaining : Nat) {before after : Controller} {trace : Trace} {fault : Fault}
      {session : Session} (link : before.link = .connected session)
      (beating : Beating before trace (.error fault) after) :
      Idling tick (remaining + 1) before (⟨.narrate (.tick tick), ()⟩ :: trace) (.error fault) after
  | ticked (tick remaining : Nat) {before middle after : Controller} {trace others : Trace}
      {result : Except Fault Unit} {session : Session} (link : before.link = .connected session)
      (beating : Beating before trace (.ok ()) middle)
      (idling : Idling (tick + 1) remaining middle others result after) :
      Idling tick (remaining + 1) before (⟨.narrate (.tick tick), ()⟩ :: (trace ++ others)) result
        after

theorem idle_run_disconnected (tick remaining : Nat) {before : Controller}
    (link : before.link = .disconnected) :
    (idle tick (remaining + 1)).run.run before = .done (.ok (), before) := by
  cases before
  cases link
  rfl

theorem idle_run_connected (tick remaining : Nat) {before : Controller} {session : Session}
    (link : before.link = .connected session) :
    (idle tick (remaining + 1)).run.run before = .ask (.narrate (.tick tick)) fun _ =>
      (do beat; idle (tick + 1) remaining : Action Unit).run.run before := by
  cases before
  cases link
  rfl

theorem idling {tick remaining : Nat} {before after : Controller} {trace : Trace}
    {result : Except Fault Unit} (outcome : Outcome (idle tick remaining) before trace result after) :
    Idling tick remaining before trace result after := by
  induction remaining generalizing tick before trace with
  | zero =>
      obtain ⟨rfl, rfl, rfl⟩ := outcome_done rfl outcome
      exact .done tick _
  | succ remaining induction =>
      cases link : before.link with
      | disconnected =>
          obtain ⟨rfl, rfl, rfl⟩ := outcome_done (idle_run_disconnected tick remaining link) outcome
          exact .disconnected tick remaining link
      | connected session =>
          unfold Outcome at outcome
          rw [idle_run_connected tick remaining link] at outcome
          obtain ⟨_, others, rfl, told⟩ := Program.yields_ask outcome
          rcases outcome_bind told with
            ⟨fault, rfl, failed⟩ | ⟨_, first, middle, rest, beaten, idled, rfl⟩
          · exact .failed tick remaining link (beating failed)
          · exact .ticked tick remaining link (beating beaten) (induction idled)

/-! ## Commands -/

/-- What can come of a command without the heartbeat at its end. -/
inductive Obeying : Command → Controller → Trace → Except Fault Unit → Controller → Prop where
  | enable (device : Device) {before after : Controller} {trace : Trace} {result : Except Fault Unit}
      (reannouncing :
        Reannouncing (before.withRoster (before.roster.enable device)) trace result after) :
      Obeying (.enable device) before trace result after
  | missing (device : Device) {before : Controller} (fault : Fault)
      (missing : before.roster.disable device = .error fault) :
      Obeying (.disable device) before [] (.error fault) before
  | disable (device : Device) {before after : Controller} {trace : Trace}
      {result : Except Fault Unit} (found : Device) (roster : Roster)
      (present : before.roster.disable device = .ok (found, roster))
      (reannouncing : Reannouncing (before.withRoster roster) trace result after) :
      Obeying (.disable device) before trace result after
  | dieHorribly (seconds : Nat) {before after : Controller} {trace : Trace}
      {result : Except Fault Unit} (announcing : Announcing before.closed trace result after) :
      Obeying (.dieHorribly seconds) before
        (⟨.narrate (.dying seconds), ()⟩ :: ⟨.pause seconds, ()⟩ :: trace) result after
  | sleep (seconds : Nat) {before after : Controller} {trace : Trace} {result : Except Fault Unit}
      (idling : Idling 0 seconds before trace result after) :
      Obeying (.sleep seconds) before trace result after

theorem obey_disable_run (device : Device) (before : Controller) :
    (obey (.disable device)).run.run before = match before.roster.disable device with
      | .ok (_, roster) => reannounce.run.run (before.withRoster roster)
      | .error fault => .done (.error fault, before) := by
  change (match before.roster.disable device with
    | .ok (_, roster) => _
    | .error fault => _ : Action Unit).run.run before = _
  cases before.roster.disable device <;> rfl

theorem obeying {command : Command} {before after : Controller} {trace : Trace}
    {result : Except Fault Unit} (outcome : Outcome (obey command) before trace result after) :
    Obeying command before trace result after := by
  cases command with
  | enable device => exact .enable device (reannouncing outcome)
  | disable device =>
      unfold Outcome at outcome
      rw [obey_disable_run] at outcome
      cases disabled : before.roster.disable device with
      | error fault =>
          rw [disabled] at outcome
          obtain ⟨rfl, rfl, rfl⟩ := Program.yields_done_pair outcome
          exact .missing device fault disabled
      | ok taken =>
          rw [disabled] at outcome
          exact .disable device taken.1 taken.2 disabled (reannouncing outcome)
  | dieHorribly seconds =>
      obtain ⟨_, others, rfl, told⟩ := Program.yields_ask outcome
      obtain ⟨_, rest, rfl, paused⟩ := Program.yields_ask told
      exact .dieHorribly seconds (announcing paused)
  | sleep seconds => exact .sleep seconds (idling outcome)

inductive Executing (command : Command) (before : Controller) :
    Trace → Except Fault Unit → Controller → Prop where
  | stopped {trace : Trace} {fault : Fault} {after : Controller}
      (obeying : Obeying command before.commanded trace (.error fault) after) :
      Executing command before (⟨.narrate (.processing command), ()⟩ :: trace) (.error fault) after
  | obeyed {trace others : Trace} {result : Except Fault Unit} {middle after : Controller}
      (obeying : Obeying command before.commanded trace (.ok ()) middle)
      (beating : Beating middle others result after) :
      Executing command before (⟨.narrate (.processing command), ()⟩ :: (trace ++ others)) result
        after

theorem executing {command : Command} {before after : Controller} {trace : Trace}
    {result : Except Fault Unit} (outcome : Outcome (execute command) before trace result after) :
    Executing command before trace result after := by
  have same : (execute command).run.run before = .ask (.narrate (.processing command)) fun _ =>
      (do obey command; beat : Action Unit).run.run before.commanded := rfl
  unfold Outcome at outcome
  rw [same] at outcome
  obtain ⟨_, others, rfl, told⟩ := Program.yields_ask outcome
  rcases outcome_bind told with
    ⟨fault, rfl, failed⟩ | ⟨_, first, middle, rest, obeyed, beaten, rfl⟩
  · exact .stopped (obeying failed)
  · exact .obeyed (obeying obeyed) (beating beaten)

/-! ## The end of a script -/

inductive Finishing (before : Controller) : Trace → Except Fault Unit → Controller → Prop where
  | disconnected (link : before.link = .disconnected) : Finishing before [] (.ok ()) before
  | kept (session : Session) (link : before.link = .connected session)
      (kept : before.options.disconnectOnExit = false) :
      Finishing before [⟨.narrate (.leftOpen session.statePort), ()⟩] (.ok ()) before
  | left (session : Session) (link : before.link = .connected session)
      (asked : before.options.disconnectOnExit = true) {trace : Trace} {result : Except Fault Unit}
      {after : Controller} (leaving : Leaving session before.closed trace result after) :
      Finishing before trace result after

theorem finishing {before after : Controller} {trace : Trace} {result : Except Fault Unit}
    (outcome : Outcome finish before trace result after) : Finishing before trace result after := by
  obtain ⟨endpoint, ⟨disconnectOnExit⟩, roster, link, stats⟩ := before
  cases link with
  | disconnected =>
      obtain ⟨rfl, rfl, rfl⟩ := outcome_done rfl outcome
      exact .disconnected rfl
  | connected session =>
      cases disconnectOnExit with
      | true => exact .left session rfl rfl (leaving outcome)
      | false =>
          obtain ⟨_, rest, rfl, told⟩ := Program.yields_ask outcome
          obtain ⟨rfl, rfl, rfl⟩ := Program.yields_done_pair told
          exact .kept session rfl rfl

end StandIn.Controller
