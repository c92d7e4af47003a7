import StandIn.Proofs.Command.Script
import StandIn.Proofs.Controller.Accounts
import StandIn.Proofs.Controller.Chronicle
import StandIn.Proofs.Controller.Moves

/-!
How far a script gets, and that nothing else about it is up to the peer. The roster is the one that
the commands begun so far make of it, and after a success the link is what the commands of the
script and the options make of it.
-/

set_option autoImplicit false

namespace StandIn

/-- Whether the devices are announced for a command, unless it fails before that. -/
def Command.announces : Command → Bool
  | .sleep _ => false
  | _ => true

namespace Controller

open Wire (Trace)

/-- The first so many commands have been begun, and their effect on the roster is all there is. -/
structure Advanced {Value : Type} (script : Script) (count : Nat) (before : Controller)
    (trace : Trace) (result : Except Fault Value) (after : Controller) : Prop where
  counted : after.stats.commands = before.stats.commands + count
  within : count ≤ script.commands.length
  chronicle : Chronicle before (script.commands.take count) trace after
  /-- Only the last command can be one that misses its device, and the result says so. -/
  missing : ∀ earlier device later,
    script.commands.take count = earlier ++ .disable device :: later →
      device ∉ (before.roster.replay earlier).devices →
        later = [] ∧ result = .error (.notEnabled device)
  complete : ∀ value, result = .ok value →
    count = script.commands.length ∧ script.ending = .ok ()

/-- A command that misses its device is told, and that is all. -/
theorem Executing.missed {device : Device} {before after : Controller} {trace : Trace}
    {result : Except Fault Unit} (executing : Executing (.disable device) before trace result after)
    (absent : device ∉ before.roster.devices) :
    trace = [⟨.narrate (.processing (.disable device)), ()⟩] ∧
      result = .error (.notEnabled device) := by
  have missed : before.commanded.roster.disable device = .error (.notEnabled device) :=
    Roster.disable_eq_error_iff.mpr ⟨absent, rfl⟩
  cases executing with
  | stopped obeying =>
      cases obeying with
      | missing _ fault failed =>
          rw [missed] at failed
          cases failed
          exact ⟨rfl, rfl⟩
      | disable _ found roster present => simp [missed] at present
  | obeyed obeying =>
      cases obeying with
      | disable _ found roster present => simp [missed] at present

theorem Executing.missing {device : Device} {before after : Controller} {trace : Trace}
    {result : Except Fault Unit} (executing : Executing (.disable device) before trace result after)
    (absent : device ∉ before.roster.devices) : result = .error (.notEnabled device) :=
  (executing.missed absent).2

theorem executing_advanced {command : Command} {rest : List Command} {ending : Except Fault Unit}
    {before after : Controller} {trace : Trace} {fault : Fault}
    (executing : Executing command before trace (.error fault) after) :
    Advanced ⟨command :: rest, ending⟩ 1 before trace (.error fault : Except Fault Unit) after where
  counted := executing.accounts.commands
  within := by simp
  chronicle := by simpa using executing.chronicle
  missing := by
    intro earlier device later split absent
    have single : [command] = earlier ++ .disable device :: later := by simpa using split
    rcases List.singleton_eq_append_iff.mp single with ⟨rfl, same⟩ | ⟨_, none⟩
    · obtain ⟨rfl, rfl⟩ := List.cons.inj same
      exact ⟨rfl, executing.missing absent⟩
    · cases none
  complete := by
    intro value success
    cases success

theorem Advanced.cons {command : Command} {script : Script} {count : Nat}
    {before middle after : Controller} {trace others : Trace} {result : Except Fault Unit}
    (executing : Executing command before trace (.ok ()) middle)
    (advanced : Advanced script count middle others result after) :
    Advanced ⟨command :: script.commands, script.ending⟩ (count + 1) before (trace ++ others) result
      after where
  counted := by
    have first : middle.stats.commands = before.stats.commands + 1 := executing.accounts.commands
    have later := advanced.counted
    omega
  within := by simpa using advanced.within
  chronicle := by simpa using executing.chronicle.append advanced.chronicle
  missing := by
    intro earlier device later split absent
    cases earlier with
    | nil =>
        obtain ⟨rfl, _⟩ := List.cons.inj split
        cases executing.missing absent
    | cons first others =>
        obtain ⟨rfl, behind⟩ := List.cons.inj split
        apply advanced.missing others device later behind
        rwa [executing.chronicle.replayed]
  complete := by
    intro value success
    obtain ⟨all, ended⟩ := advanced.complete value success
    exact ⟨by simp [all], ended⟩

theorem Following.advanced {number : Nat} {lines : List String} {before after : Controller}
    {trace : Trace} {result : Except Fault Unit}
    (following : Following number lines before trace result after) :
    ∃ count, Advanced (Script.read number lines) count before trace result after := by
  induction following with
  | done number before =>
      refine ⟨0, rfl, Nat.zero_le _, chronicle_nothing rfl rfl, ?_, fun _ _ => ⟨rfl, rfl⟩⟩
      intro earlier device later split
      simp at split
  | unreadable number line rest before fault read =>
      rw [Script.read_cons_error read]
      refine ⟨0, rfl, Nat.zero_le _, chronicle_nothing rfl rfl, ?_, fun _ success => nomatch success⟩
      intro earlier device later split
      simp at split
  | skipped number line read _ induction =>
      rw [Script.read_cons_none read]
      exact induction
  | stopped number line rest command read executing =>
      rw [Script.read_cons_some read]
      exact ⟨1, executing_advanced executing⟩
  | executed number line command read executing _ induction =>
      rw [Script.read_cons_some read]
      obtain ⟨count, advanced⟩ := induction
      exact ⟨count + 1, advanced.cons executing⟩

/-- The end of a script is no command and leaves the roster alone. -/
theorem Advanced.finished {Value : Type} {script : Script} {count : Nat}
    {before middle after : Controller} {trace others : Trace} {result : Except Fault Unit}
    (advanced : Advanced script count before trace (.ok ()) middle)
    (finishing : Finishing middle others result after) (ended : Except Fault Value) :
    Advanced script count before (trace ++ others) ended after where
  counted := by
    have kept : after.stats.commands = middle.stats.commands + 0 := finishing.accounts.commands
    have earlier := advanced.counted
    omega
  within := advanced.within
  chronicle := by simpa using advanced.chronicle.append finishing.chronicle
  missing := by
    intro earlier device later split absent
    cases (advanced.missing earlier device later split absent).2
  complete _ _ := advanced.complete () rfl

theorem Running.advanced {lines : List String} {before after : Controller} {trace : Trace}
    {result : Except Fault Stats} (running : Running lines before trace result after) :
    ∃ count, Advanced (Script.read 1 lines) count before trace result after := by
  cases running with
  | stopped following =>
      obtain ⟨count, advanced⟩ := following.advanced
      refine ⟨count, advanced.counted, advanced.within, advanced.chronicle, ?_,
        fun _ success => nomatch success⟩
      intro earlier device later split absent
      obtain ⟨last, same⟩ := advanced.missing earlier device later split absent
      cases same
      exact ⟨last, rfl⟩
  | unfinished following finishing =>
      obtain ⟨count, advanced⟩ := following.advanced
      exact ⟨count, advanced.finished finishing _⟩
  | finished following finishing =>
      obtain ⟨count, advanced⟩ := following.advanced
      exact ⟨count, advanced.finished finishing _⟩

/-! ## The link after a success -/

def Connected (controller : Controller) : Prop :=
  ∃ session, controller.link = .connected session

theorem Announcing.connected {before after : Controller} {trace : Trace}
    (announcing : Announcing before trace (.ok ()) after) : after.Connected := by
  cases announcing with
  | opened session => exact ⟨session, rfl⟩

theorem Reannouncing.connected {before after : Controller} {trace : Trace}
    (reannouncing : Reannouncing before trace (.ok ()) after) : after.Connected := by
  cases reannouncing with
  | disconnected link announcing => exact announcing.connected
  | released session link announcing => exact announcing.connected

theorem Beating.connected_iff {before after : Controller} {trace : Trace}
    (beating : Beating before trace (.ok ()) after) : after.Connected ↔ before.Connected := by
  cases beating with
  | idle => rfl
  | heard session link => rfl
  | lost session link what announcing =>
      have reopened := announcing.connected
      exact ⟨fun _ => ⟨session, link⟩, fun _ => reopened⟩

theorem Idling.connected_iff {tick remaining : Nat} {before after : Controller} {trace : Trace}
    {result : Except Fault Unit} (idling : Idling tick remaining before trace result after)
    (success : result = .ok ()) : after.Connected ↔ before.Connected := by
  induction idling with
  | done => rfl
  | disconnected => rfl
  | failed => cases success
  | ticked _ _ _ beating _ induction => exact (induction success).trans beating.connected_iff

theorem Obeying.connected_iff {command : Command} {before after : Controller} {trace : Trace}
    (obeying : Obeying command before trace (.ok ()) after) :
    after.Connected ↔ before.Connected ∨ command.announces = true := by
  cases obeying with
  | enable device reannouncing => simp [reannouncing.connected, Command.announces]
  | disable device found roster present reannouncing =>
      simp [reannouncing.connected, Command.announces]
  | dieHorribly seconds announcing => simp [announcing.connected, Command.announces]
  | sleep seconds idling => simp [idling.connected_iff rfl, Command.announces]

theorem Executing.connected_iff {command : Command} {before after : Controller} {trace : Trace}
    (executing : Executing command before trace (.ok ()) after) :
    after.Connected ↔ before.Connected ∨ command.announces = true := by
  cases executing with
  | obeyed obeying beating => exact beating.connected_iff.trans obeying.connected_iff

theorem Following.connected_iff {number : Nat} {lines : List String} {before after : Controller}
    {trace : Trace} {result : Except Fault Unit}
    (following : Following number lines before trace result after) (success : result = .ok ()) :
    after.Connected ↔ before.Connected ∨
      ∃ command ∈ (Script.read number lines).commands, command.announces = true := by
  induction following with
  | done number before => simp [Script.read, Command.ofLines, Script.ofReadings]
  | unreadable => cases success
  | skipped number line read _ induction =>
      rw [Script.read_cons_none read]
      exact induction success
  | stopped => cases success
  | executed number line command read executing _ induction =>
      rw [Script.read_cons_some read, induction success, executing.connected_iff]
      simp [or_assoc]

/-- What the link has become when a script has ended with success. -/
def Settled (commands : List Command) (before after : Controller) : Prop :=
  if before.options.disconnectOnExit then after.link = .disconnected
  else after.Connected ↔ before.Connected ∨ ∃ command ∈ commands, command.announces = true

theorem Running.settled {lines : List String} {before after : Controller} {trace : Trace}
    {stats : Stats} (running : Running lines before trace (.ok stats) after) :
    Settled (Script.read 1 lines).commands before after := by
  cases running with
  | finished following finishing =>
      have options := following.moves.options
      have connected := following.connected_iff rfl
      unfold Settled
      rw [← options]
      cases finishing with
      | disconnected link =>
          by_cases asked : after.options.disconnectOnExit = true
          · rw [if_pos asked]
            exact link
          · rw [if_neg asked]
            exact connected
      | kept session link kept =>
          rw [kept, if_neg Bool.false_ne_true]
          exact connected
      | left session link asked leaving =>
          rw [asked, if_pos rfl]
          cases leaving with
          | agreed => rfl

/-! ## Scripts under different peers -/

variable {State : Type}

/-- Whatever the peer answers, a script leaves behind the roster that its first commands make, as
many of them as were counted; a command that misses its device is the last of these. So two peers
under which as many commands are counted leave the same roster behind. After a success every line
with an order was counted, and whether a session is open is no matter of the peer either. -/
theorem peer_decides_only_progress (behaviour : Behaviour Wire.Answer State) (start : State)
    (controller : Controller) (lines : List String) :
    let ended := enact behaviour (run lines) controller start
    let count := ended.value.2.stats.commands - controller.stats.commands
    let commands := (Script.read 1 lines).commands
    ended.value.2.stats.commands = controller.stats.commands + count ∧
      count ≤ commands.length ∧
      ended.value.2.roster = controller.roster.replay (commands.take count) ∧
      (∀ earlier device later, commands.take count = earlier ++ .disable device :: later →
        device ∉ (controller.roster.replay earlier).devices →
          later = [] ∧ ended.value.1 = .error (.notEnabled device)) ∧
      (∀ (Other : Type) (otherwise : Behaviour Wire.Answer Other) (there : Other)
        (twin : Controller), twin.roster = controller.roster →
          let again := enact otherwise (run lines) twin there
          again.value.2.stats.commands - twin.stats.commands = count →
            again.value.2.roster = ended.value.2.roster) ∧
      ∀ stats, ended.value.1 = .ok stats →
        count = (lines.filter Command.isOrder).length ∧
          Settled commands controller ended.value.2 := by
  have counts : ∀ {Other : Type} (otherwise : Behaviour Wire.Answer Other) (there : Other)
      (twin : Controller),
      let again := enact otherwise (run lines) twin there
      Advanced (Script.read 1 lines) (again.value.2.stats.commands - twin.stats.commands) twin
        again.trace again.value.1 again.value.2 := by
    intro Other otherwise there twin again
    obtain ⟨count, advanced⟩ := (running (enact_outcome otherwise (run lines) twin there)).advanced
    have increase : again.value.2.stats.commands - twin.stats.commands = count := by
      have counted : again.value.2.stats.commands = twin.stats.commands + count := advanced.counted
      omega
    rw [increase]
    exact advanced
  intro ended count commands
  have advanced := counts behaviour start controller
  refine ⟨advanced.counted, advanced.within, advanced.chronicle.replayed, advanced.missing, ?_, ?_⟩
  · intro Other otherwise there twin sameRoster again sameCount
    have other := (counts otherwise there twin).chronicle.replayed
    rw [sameCount, sameRoster] at other
    rw [other, advanced.chronicle.replayed]
  · intro stats success
    obtain ⟨all, complete⟩ := advanced.complete stats success
    have outcome := enact_outcome behaviour (run lines) controller start
    rw [success] at outcome
    exact ⟨all.trans (Script.read_length complete), (running outcome).settled⟩

/-- A peer that answers everything, and one whose first heartbeat comes too late: both leave the one
device behind that the script enables. -/
theorem peer_decides_only_progress_recovered :
    let peer : Behaviour Wire.Answer (List (Except Fault Unit)) := fun
      | .narrate _, heartbeats => ((), heartbeats)
      | .handshake endpoint _, heartbeats => (.ok ⟨endpoint, 4002, 4003⟩, heartbeats)
      | .heartbeat _, heartbeats => (heartbeats.headD (.ok ()), heartbeats.tail)
      | .disconnect _, heartbeats => (.ok (), heartbeats)
      | .pause _, heartbeats => ((), heartbeats)
    let controller := fresh ⟨"localhost", 1870, 5001⟩ {}
    let ended := enact peer (run ["enable light L1"]) controller []
    let again := enact peer (run ["enable light L1"]) controller [.error (.timeout "late")]
    ended.value.1 = .ok ⟨1, 1, 1, 0, 0⟩ ∧ again.value.1 = .ok ⟨1, 2, 0, 0, 1⟩ ∧
      ended.value.2.roster.devices = [⟨"light", "L1"⟩] ∧
      again.value.2.roster = ended.value.2.roster ∧
      Settled (Script.read 1 ["enable light L1"]).commands controller ended.value.2 := by
  intro peer controller
  have read : Command.ofLine 1 "enable light L1" = .ok (some (.enable ⟨"light", "L1"⟩)) := by
    decide
  have answered : (enact peer (run ["enable light L1"]) controller []).value.1 =
        .ok ⟨1, 1, 1, 0, 0⟩ ∧
      (enact peer (run ["enable light L1"]) controller []).value.2.stats.commands = 1 := by
    rw [run, follow_cons_some read]
    exact ⟨rfl, rfl⟩
  have recovered : (enact peer (run ["enable light L1"]) controller
        [.error (.timeout "late")]).value.1 = .ok ⟨1, 2, 0, 0, 1⟩ ∧
      (enact peer (run ["enable light L1"]) controller
        [.error (.timeout "late")]).value.2.stats.commands = 1 := by
    rw [run, follow_cons_some read]
    exact ⟨rfl, rfl⟩
  have orders : (Script.read 1 ["enable light L1"]).commands = [.enable ⟨"light", "L1"⟩] := by
    decide
  obtain ⟨_, _, replayed, _, same, settled⟩ :=
    peer_decides_only_progress peer [] controller ["enable light L1"]
  have rosters := same _ peer [.error (.timeout "late")] controller rfl
  simp only [answered.2, recovered.2, forall_const] at rosters
  rw [answered.2, orders] at replayed
  exact ⟨answered.1, recovered.1, congrArg Roster.devices replayed, rosters,
    (settled _ answered.1).2⟩

end Controller
end StandIn
