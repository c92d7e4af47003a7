import StandIn.Proofs.Controller.History

/-!
The work of a controller cut into moves. A move begins and ends where the link says truly whether a
session is open, so whatever is kept by every move holds after every step of every history. In
particular the devices of the roster change only without a session, or while one is being left.
-/

set_option autoImplicit false

namespace StandIn.Controller

open Wire (Trace)

inductive Move : Controller → Trace → Controller → Prop where
  | told (line : Narration) (before : Controller) : Move before [⟨.narrate line, ()⟩] before
  | commanded (before : Controller) : Move before [] before.commanded
  | changed (roster : Roster) {before : Controller} (link : before.link = .disconnected) :
      Move before [] (before.withRoster roster)
  | opened (session : Session) {before : Controller} (link : before.link = .disconnected) :
      Move before [⟨.handshake before.endpoint before.roster.devices, .ok session⟩]
        (before.opened session)
  | unopened (fault : Fault) {before : Controller} (link : before.link = .disconnected) :
      Move before [⟨.handshake before.endpoint before.roster.devices, .error fault⟩] before
  | heard (session : Session) {before : Controller} (link : before.link = .connected session) :
      Move before [⟨.heartbeat session, .ok ()⟩] before.heard
  | failed (session : Session) (fault : Fault) {before : Controller}
      (link : before.link = .connected session) (fatal : fault.isTimeout = false) :
      Move before [⟨.heartbeat session, .error fault⟩] before
  | lost (session : Session) (what : String) {before : Controller}
      (link : before.link = .connected session) :
      Move before [⟨.heartbeat session, .error (.timeout what)⟩] before.lost
  | released (roster : Roster) (session : Session) {before : Controller}
      (link : before.link = .connected session) :
      Move before [⟨.disconnect session, .ok ()⟩] (before.withRoster roster).closed.released
  | stuck (roster : Roster) (session : Session) (fault : Fault) {before : Controller}
      (link : before.link = .connected session) :
      Move before [⟨.disconnect session, .error fault⟩] (before.withRoster roster).closed
  | silenced (seconds : Nat) (before : Controller) :
      Move before [⟨.pause seconds, ()⟩] before.closed

/-- Any number of moves, one from where the other has led. -/
inductive Moves : Controller → Trace → Controller → Prop where
  | none (before : Controller) : Moves before [] before
  | step {before middle after : Controller} {trace others : Trace} (move : Move before trace middle)
      (moves : Moves middle others after) : Moves before (trace ++ others) after

theorem Move.moves {before after : Controller} {trace : Trace} (move : Move before trace after) :
    Moves before trace after := by
  have single := Moves.step move (.none after)
  rwa [List.append_nil] at single

theorem Moves.append {before middle after : Controller} {trace others : Trace}
    (first : Moves before trace middle) (second : Moves middle others after) :
    Moves before (trace ++ others) after := by
  induction first with
  | none => exact second
  | step move _ induction =>
      rw [List.append_assoc]
      exact .step move (induction second)

/-! ## Every action moves -/

theorem Announcing.moves {before after : Controller} {trace : Trace} {result : Except Fault Unit}
    (announcing : Announcing before trace result after) (link : before.link = .disconnected) :
    Moves before trace after := by
  cases announcing with
  | opened session => exact (Move.opened session link).moves
  | failed fault => exact (Move.unopened fault link).moves

theorem Reannouncing.moves {before after : Controller} {roster : Roster} {trace : Trace}
    {result : Except Fault Unit} (reannouncing : Reannouncing (before.withRoster roster) trace result after) :
    Moves before trace after := by
  cases reannouncing with
  | disconnected link announcing =>
      have closed : before.link = .disconnected := link
      exact .step (.changed roster closed) (announcing.moves link)
  | stuck session link fault =>
      have connected : before.link = .connected session := link
      exact (Move.stuck roster session fault connected).moves
  | released session link announcing =>
      have connected : before.link = .connected session := link
      exact .step (.released roster session connected) (announcing.moves rfl)

theorem Beating.moves {before after : Controller} {trace : Trace} {result : Except Fault Unit}
    (beating : Beating before trace result after) : Moves before trace after := by
  cases beating with
  | idle => exact .none before
  | heard session link => exact (Move.heard session link).moves
  | failed session link fault fatal => exact (Move.failed session fault link fatal).moves
  | lost session link what announcing =>
      exact .step (.lost session what link) (.step (.told _ _) (announcing.moves rfl))

theorem Idling.moves {tick remaining : Nat} {before after : Controller} {trace : Trace}
    {result : Except Fault Unit} (idling : Idling tick remaining before trace result after) :
    Moves before trace after := by
  induction idling with
  | done _ before => exact .none before
  | disconnected => exact .none _
  | failed _ _ _ beating => exact .step (.told _ _) beating.moves
  | ticked _ _ _ beating _ induction => exact .step (.told _ _) (beating.moves.append induction)

theorem Obeying.moves {command : Command} {before after : Controller} {trace : Trace}
    {result : Except Fault Unit} (obeying : Obeying command before trace result after) :
    Moves before trace after := by
  cases obeying with
  | enable device reannouncing => exact reannouncing.moves
  | missing => exact .none before
  | disable device found roster present reannouncing => exact reannouncing.moves
  | dieHorribly seconds announcing =>
      exact .step (.told _ _) (.step (.silenced seconds _) (announcing.moves rfl))
  | sleep seconds idling => exact idling.moves

theorem Executing.moves {command : Command} {before after : Controller} {trace : Trace}
    {result : Except Fault Unit} (executing : Executing command before trace result after) :
    Moves before trace after := by
  have begun : Moves before [⟨.narrate (.processing command), ()⟩] before.commanded :=
    .step (.told _ _) (Move.commanded before).moves
  cases executing with
  | stopped obeying => exact begun.append obeying.moves
  | obeyed obeying beating => exact begun.append (obeying.moves.append beating.moves)

theorem Finishing.moves {before after : Controller} {trace : Trace} {result : Except Fault Unit}
    (finishing : Finishing before trace result after) : Moves before trace after := by
  cases finishing with
  | disconnected => exact .none before
  | kept => exact (Move.told _ before).moves
  | left session link asked leaving =>
      cases leaving with
      | agreed => exact (Move.released before.roster session link).moves
      | failed fault => exact (Move.stuck before.roster session fault link).moves

theorem Following.moves {number : Nat} {lines : List String} {before after : Controller}
    {trace : Trace} {result : Except Fault Unit}
    (following : Following number lines before trace result after) : Moves before trace after := by
  induction following with
  | done _ before => exact .none before
  | unreadable _ _ _ before => exact .none before
  | skipped _ _ _ _ induction => exact induction
  | stopped _ _ _ _ _ executing => exact executing.moves
  | executed _ _ _ _ executing _ induction => exact executing.moves.append induction

theorem Taking.moves {step : Step} {before after : Controller} {trace : Trace}
    {result : Except Fault (Option Stats)} (taking : Taking step before trace result after) :
    Moves before trace after := by
  cases taking with
  | run lines running =>
      cases running with
      | stopped following => exact following.moves
      | unfinished following finishing => exact following.moves.append finishing.moves
      | finished following finishing => exact following.moves.append finishing.moves
  | execute command executing => exact executing.moves
  | finish finishing => exact finishing.moves

theorem Past.moves {steps : List Step} {before after : Controller} {trace : Trace}
    {results : List (Except Fault (Option Stats))} (past : Past steps before trace results after) :
    Moves before trace after := by
  induction past with
  | none before => exact .none before
  | step taking _ induction => exact taking.moves.append induction

/-! ## What every move keeps -/

theorem Moves.keep {Invariant : Trace → Controller → Prop}
    (step : ∀ {history trace before after}, Invariant history before → Move before trace after →
      Invariant (history ++ trace) after)
    {history trace : Trace} {before after : Controller} (holds : Invariant history before)
    (moves : Moves before trace after) : Invariant (history ++ trace) after := by
  -- The history grows with each move, so the induction is for all histories at once.
  induction moves generalizing history with
  | none => rwa [List.append_nil]
  | step move _ induction =>
      rw [← List.append_assoc]
      exact induction (step holds move)

theorem Move.options {before after : Controller} {trace : Trace} (move : Move before trace after) :
    after.options = before.options := by
  cases move <;> rfl

theorem Moves.options {before after : Controller} {trace : Trace} (moves : Moves before trace after) :
    after.options = before.options := by
  induction moves with
  | none => rfl
  | step move _ induction => rw [induction, move.options]

/-- What holds of a controller without a past, and is kept by every move, holds after every history
against any peer. -/
theorem history_keeps {State : Type} (behaviour : Behaviour Wire.Answer State) (start : State)
    (before : Controller) (steps : List Step) {Invariant : Trace → Controller → Prop}
    (initially : Invariant [] before)
    (step : ∀ {history trace before after}, Invariant history before → Move before trace after →
      Invariant (history ++ trace) after) :
    let finished := (before.converseAll steps).run behaviour start
    Invariant finished.trace finished.value.2 := by
  intro finished
  have moves : Moves before finished.trace finished.value.2 :=
    (past (Program.run_yields behaviour (before.converseAll steps) start)).moves
  have kept := moves.keep step initially
  rwa [List.nil_append] at kept

end StandIn.Controller
