import StandIn.Proofs.Controller.History
import StandIn.Proofs.Wire.Chronicle

/-!
The trace of a controller is its chronicle. It tells the commands that were begun, their replay is
the roster, every handshake announces the roster of its moment, and a heartbeat out of time is
followed at once by a handshake.
-/

set_option autoImplicit false

namespace StandIn.Controller

open Wire (Trace Current Renewed calls)

structure Chronicle (before : Controller) (commands : List Command) (trace : Trace)
    (after : Controller) : Prop where
  settled : after.endpoint = before.endpoint
  replayed : after.roster = before.roster.replay commands
  told : Wire.commands trace = commands
  current : Current before.endpoint before.roster trace
  renewed : Renewed (calls trace)

theorem Chronicle.append {commands others : List Command} {first second : Trace}
    {before middle after : Controller} (early : Chronicle before commands first middle)
    (late : Chronicle middle others second after) :
    Chronicle before (commands ++ others) (first ++ second) after where
  settled := late.settled.trans early.settled
  replayed := by
    rw [late.replayed, early.replayed, Roster.replay_append]
  told := by
    rw [Wire.commands_append, early.told, late.told]
  current := by
    have later := late.current
    rw [early.settled, early.replayed, ← early.told] at later
    exact early.current.append later
  renewed := by
    rw [Wire.calls_append]
    exact early.renewed.append late.renewed

theorem chronicle_nothing {before after : Controller} (settled : after.endpoint = before.endpoint)
    (kept : after.roster = before.roster) : Chronicle before [] [] after where
  settled := settled
  replayed := kept
  told := rfl
  current := Wire.current_nil before.endpoint before.roster
  renewed := .nil

/-- One exchange that is no handshake, tells no command and is not lost. -/
theorem chronicle_other {before after : Controller} {exchange : Exchange Wire.Answer}
    (settled : after.endpoint = before.endpoint) (kept : after.roster = before.roster)
    (untold : Wire.command? exchange = none) (other : Wire.announcement? exchange = none)
    (found : ¬ Wire.Lost exchange) : Chronicle before [] [exchange] after where
  settled := settled
  replayed := kept
  told := by simp [Wire.commands, untold]
  current := Wire.current_other other
  renewed := by
    cases isCall : Wire.isCall exchange with
    | false =>
        rw [calls, List.filter_cons_of_neg (by simp [isCall])]
        exact .nil
    | true =>
        rw [calls, List.filter_cons_of_pos isCall]
        exact Wire.renewed_single found

theorem Chronicle.told_other {line : Narration} {commands : List Command} {trace : Trace}
    {before after : Controller} (chronicle : Chronicle before commands trace after)
    (untold : Wire.command? ⟨.narrate line, ()⟩ = none) :
    Chronicle before commands (⟨.narrate line, ()⟩ :: trace) after := by
  have line : Chronicle before [] [⟨.narrate line, ()⟩] before :=
    chronicle_other rfl rfl untold rfl (by rintro ⟨⟩)
  exact line.append chronicle

/-! ## Every action -/

theorem Announcing.chronicle {before after : Controller} {trace : Trace}
    {result : Except Fault Unit} (announcing : Announcing before trace result after) :
    Chronicle before [] trace after := by
  cases announcing with
  | opened session =>
      refine ⟨rfl, rfl, rfl, Wire.current_announced _ _ _, ?_⟩
      exact Wire.renewed_single (by rintro ⟨⟩)
  | failed fault =>
      refine ⟨rfl, rfl, rfl, Wire.current_announced _ _ _, ?_⟩
      exact Wire.renewed_single (by rintro ⟨⟩)

theorem Leaving.chronicle {session : Session} {before after : Controller} {trace : Trace}
    {result : Except Fault Unit} (leaving : Leaving session before.closed trace result after) :
    Chronicle before [] trace after := by
  cases leaving with
  | agreed => exact chronicle_other rfl rfl rfl rfl (by rintro ⟨⟩)
  | failed fault => exact chronicle_other rfl rfl rfl rfl (by rintro ⟨⟩)

theorem Reannouncing.chronicle {before after : Controller} {trace : Trace}
    {result : Except Fault Unit} (reannouncing : Reannouncing before trace result after) :
    Chronicle before [] trace after := by
  cases reannouncing with
  | disconnected link announcing => exact announcing.chronicle
  | stuck session link fault => exact (Leaving.failed fault).chronicle
  | released session link announcing =>
      have left : Chronicle before [] [⟨.disconnect session, .ok ()⟩] before.closed.released :=
        Leaving.agreed.chronicle
      exact left.append announcing.chronicle

/-- A heartbeat out of time and the handshake after it make one entry. -/
theorem Announcing.chronicle_lost {session : Session} {what : String} {before after : Controller}
    {trace : Trace} {result : Except Fault Unit} (announcing : Announcing before.lost trace result after) :
    Chronicle before [] (⟨.heartbeat session, .error (.timeout what)⟩ ::
      ⟨.narrate (.lost (.timeout what)), ()⟩ :: trace) after := by
  have missed : ∀ exchange : Exchange Wire.Answer, Wire.announcement? exchange = none →
      Current before.endpoint before.roster [exchange] := fun _ other => Wire.current_other other
  have anew : Chronicle before.lost [] trace after := announcing.chronicle
  refine ⟨anew.settled, anew.replayed, anew.told, ?_, ?_⟩
  · exact (missed ⟨.heartbeat session, .error (.timeout what)⟩ rfl).append
      ((missed ⟨.narrate (.lost (.timeout what)), ()⟩ rfl).append anew.current)
  · cases announcing with
    | opened opened => exact .anew session what _ _ (.ok opened) .nil
    | failed fault => exact .anew session what _ _ (.error fault) .nil

theorem Beating.chronicle {before after : Controller} {trace : Trace} {result : Except Fault Unit}
    (beating : Beating before trace result after) : Chronicle before [] trace after := by
  cases beating with
  | idle => exact chronicle_nothing rfl rfl
  | heard => exact chronicle_other rfl rfl rfl rfl (by rintro ⟨⟩)
  | failed session link fault fatal =>
      refine chronicle_other rfl rfl rfl rfl ?_
      rintro ⟨_, what⟩
      cases fatal
  | lost session link what announcing => exact announcing.chronicle_lost

theorem Idling.chronicle {tick remaining : Nat} {before after : Controller} {trace : Trace}
    {result : Except Fault Unit} (idling : Idling tick remaining before trace result after) :
    Chronicle before [] trace after := by
  induction idling with
  | done => exact chronicle_nothing rfl rfl
  | disconnected => exact chronicle_nothing rfl rfl
  | failed _ _ _ beating => exact beating.chronicle.told_other rfl
  | ticked _ _ _ beating _ induction =>
      exact (beating.chronicle.append induction).told_other rfl

theorem Finishing.chronicle {before after : Controller} {trace : Trace}
    {result : Except Fault Unit} (finishing : Finishing before trace result after) :
    Chronicle before [] trace after := by
  cases finishing with
  | disconnected => exact chronicle_nothing rfl rfl
  | kept => exact chronicle_other rfl rfl rfl rfl (by rintro ⟨⟩)
  | left session link asked leaving => exact leaving.chronicle

/-- After the telling of a command its work begins with the roster as the command leaves it. -/
theorem Obeying.chronicle {command : Command} {before after : Controller} {trace : Trace}
    {result : Except Fault Unit} (obeying : Obeying command before trace result after) :
    Chronicle (before.withRoster (command.applied before.roster)) [] trace after := by
  cases obeying with
  | enable device reannouncing => exact reannouncing.chronicle
  | missing device fault missing =>
      refine chronicle_nothing rfl ?_
      simp only [withRoster, Command.applied, missing]
  | disable device found roster present reannouncing =>
      simp only [Command.applied, present]
      exact reannouncing.chronicle
  | dieHorribly seconds announcing =>
      have paused : Chronicle before [] [⟨.pause seconds, ()⟩] before.closed :=
        chronicle_other rfl rfl rfl rfl (by rintro ⟨⟩)
      exact (paused.append announcing.chronicle).told_other rfl
  | sleep seconds idling => exact idling.chronicle

theorem chronicle_begun (command : Command) (before : Controller) :
    Chronicle before [command] [⟨.narrate (.processing command), ()⟩]
      (before.commanded.withRoster (command.applied before.roster)) where
  settled := rfl
  replayed := rfl
  told := rfl
  current := Wire.current_other rfl
  renewed := .nil

theorem Executing.chronicle {command : Command} {before after : Controller} {trace : Trace}
    {result : Except Fault Unit} (executing : Executing command before trace result after) :
    Chronicle before [command] trace after := by
  have begun := chronicle_begun command before
  cases executing with
  | stopped obeying => exact begun.append obeying.chronicle
  | obeyed obeying beating => exact begun.append (obeying.chronicle.append beating.chronicle)

/-- The commands that lines of a script can give, whatever the number of the line. -/
def Scripted (command : Command) : Prop :=
  ∃ number line, Command.ofLine number line = .ok (some command)

theorem Following.chronicle {number : Nat} {lines : List String} {before after : Controller}
    {trace : Trace} {result : Except Fault Unit}
    (following : Following number lines before trace result after) :
    ∃ commands, Chronicle before commands trace after ∧ ∀ command ∈ commands, Scripted command := by
  induction following with
  | done => exact ⟨[], chronicle_nothing rfl rfl, fun _ member => nomatch member⟩
  | unreadable => exact ⟨[], chronicle_nothing rfl rfl, fun _ member => nomatch member⟩
  | skipped _ _ _ _ induction => exact induction
  | stopped number line _ command read executing =>
      refine ⟨[command], executing.chronicle, fun other member => ?_⟩
      rw [List.mem_singleton.mp member]
      exact ⟨number, line, read⟩
  | executed number line command read executing _ induction =>
      obtain ⟨commands, chronicle, scripted⟩ := induction
      refine ⟨command :: commands, executing.chronicle.append chronicle, fun other member => ?_⟩
      rcases List.mem_cons.mp member with rfl | later
      · exact ⟨number, line, read⟩
      · exact scripted other later

theorem Running.chronicle {lines : List String} {before after : Controller} {trace : Trace}
    {result : Except Fault Stats} (running : Running lines before trace result after) :
    ∃ commands, Chronicle before commands trace after ∧ ∀ command ∈ commands, Scripted command := by
  cases running with
  | stopped following => exact following.chronicle
  | unfinished following finishing =>
      obtain ⟨commands, chronicle, scripted⟩ := following.chronicle
      have whole := chronicle.append finishing.chronicle
      rw [List.append_nil] at whole
      exact ⟨commands, whole, scripted⟩
  | finished following finishing =>
      obtain ⟨commands, chronicle, scripted⟩ := following.chronicle
      have whole := chronicle.append finishing.chronicle
      rw [List.append_nil] at whole
      exact ⟨commands, whole, scripted⟩

theorem Taking.chronicle {step : Step} {before after : Controller} {trace : Trace}
    {result : Except Fault (Option Stats)} (taking : Taking step before trace result after) :
    ∃ commands, Chronicle before commands trace after ∧
      ((∃ lines, step = .run lines) → ∀ command ∈ commands, Scripted command) := by
  cases taking with
  | run lines running =>
      obtain ⟨commands, chronicle, scripted⟩ := running.chronicle
      exact ⟨commands, chronicle, fun _ => scripted⟩
  | execute command executing =>
      exact ⟨[command], executing.chronicle, fun ⟨_, same⟩ => nomatch same⟩
  | finish finishing => exact ⟨[], finishing.chronicle, fun _ _ member => nomatch member⟩

/-- A history has a chronicle, and if it is made of scripts alone so are its commands. -/
theorem Past.chronicle {steps : List Step} {before after : Controller} {trace : Trace}
    {results : List (Except Fault (Option Stats))} (past : Past steps before trace results after) :
    ∃ commands, Chronicle before commands trace after ∧
      ((∀ step ∈ steps, ∃ lines, step = .run lines) → ∀ command ∈ commands, Scripted command) := by
  induction past with
  | none => exact ⟨[], chronicle_nothing rfl rfl, fun _ _ member => nomatch member⟩
  | step taking _ induction =>
      obtain ⟨commands, first, scripted⟩ := taking.chronicle
      obtain ⟨others, rest, otherwise⟩ := induction
      refine ⟨commands ++ others, first.append rest, fun scripts command member => ?_⟩
      rcases List.mem_append.mp member with early | late
      · exact scripted (scripts _ List.mem_cons_self) command early
      · exact otherwise (fun step later => scripts step (.tail _ later)) command late

theorem history_chronicle {State : Type} (behaviour : Behaviour Wire.Answer State) (start : State)
    (before : Controller) (steps : List Step) :
    let finished := (before.converseAll steps).run behaviour start
    ∃ commands, Chronicle before commands finished.trace finished.value.2 ∧
      ((∀ step ∈ steps, ∃ lines, step = .run lines) → ∀ command ∈ commands, Scripted command) :=
  (past (Program.run_yields behaviour (before.converseAll steps) start)).chronicle

end StandIn.Controller
