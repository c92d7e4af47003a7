import StandIn.Proofs.Controller.History
import StandIn.Proofs.Wire.Tally

/-!
The books of a controller. Work of any kind adds to each counter what the trace of the work shows,
and every session that it opens is left, lost, given up by falling silent, or still open. The books
of two pieces of work add up, so those of a history follow from those of a single exchange.
-/

set_option autoImplicit false

namespace StandIn

def Link.sessions : Link → Nat
  | .disconnected => 0
  | .connected _ => 1

namespace Controller

open Wire (Trace isOpening isHeard isLoss isLeave isRelease)

/-- A command that was handed over for execution, with the link as it was then. -/
structure Begun where
  command : Command
  link : Link
deriving DecidableEq

/-- Whether the controller falls silent in the middle of a session. -/
def Begun.givesUp : Begun → Bool
  | ⟨.dieHorribly _, .connected _⟩ => true
  | _ => false

structure Accounts (begun : List Begun) (trace : Trace) (before after : Controller) : Prop where
  commands : after.stats.commands = before.stats.commands + begun.length
  handshakes : after.stats.handshakes = before.stats.handshakes + trace.countP isOpening
  heartbeats : after.stats.heartbeats = before.stats.heartbeats + trace.countP isHeard
  disconnects : after.stats.disconnects = before.stats.disconnects + trace.countP isRelease
  recoveries : after.stats.recoveries = before.stats.recoveries + trace.countP isLoss
  balance : trace.countP isOpening + before.link.sessions = trace.countP isLeave +
    trace.countP isLoss + begun.countP Begun.givesUp + after.link.sessions

theorem Accounts.append {begun others : List Begun} {first second : Trace}
    {before middle after : Controller} (early : Accounts begun first before middle)
    (late : Accounts others second middle after) :
    Accounts (begun ++ others) (first ++ second) before after where
  commands := by
    have earlier := early.commands
    have later := late.commands
    rw [List.length_append]
    omega
  handshakes := by
    have earlier := early.handshakes
    have later := late.handshakes
    rw [List.countP_append]
    omega
  heartbeats := by
    have earlier := early.heartbeats
    have later := late.heartbeats
    rw [List.countP_append]
    omega
  disconnects := by
    have earlier := early.disconnects
    have later := late.disconnects
    rw [List.countP_append]
    omega
  recoveries := by
    have earlier := early.recoveries
    have later := late.recoveries
    rw [List.countP_append]
    omega
  balance := by
    have earlier := early.balance
    have later := late.balance
    simp only [List.countP_append]
    omega

theorem accounts_nothing (before : Controller) : Accounts [] [] before before :=
  ⟨rfl, rfl, rfl, rfl, rfl, by simp⟩

theorem accounts_told (line : Narration) (before : Controller) :
    Accounts [] [⟨.narrate line, ()⟩] before before :=
  ⟨rfl, rfl, rfl, rfl, rfl, by simp [isOpening, isLeave, isLoss]⟩

/-- Work that is told of first has the books of the work. -/
theorem Accounts.told {begun : List Begun} {trace : Trace} {before after : Controller}
    (accounts : Accounts begun trace before after) (line : Narration) :
    Accounts begun (⟨.narrate line, ()⟩ :: trace) before after :=
  (accounts_told line before).append accounts

/-! ## The books of every action -/

theorem Announcing.accounts {before after : Controller} {trace : Trace}
    {result : Except Fault Unit} (announcing : Announcing before trace result after)
    (link : before.link = .disconnected) : Accounts [] trace before after := by
  cases announcing with
  | opened session =>
      refine ⟨rfl, rfl, rfl, rfl, rfl, ?_⟩
      rw [link]
      rfl
  | failed fault =>
      refine ⟨rfl, rfl, rfl, rfl, rfl, ?_⟩
      rw [link]
      rfl

/-- The session that is left counts as open before it is closed and as left afterwards. -/
theorem Leaving.accounts {session : Session} {before after : Controller} {trace : Trace}
    {result : Except Fault Unit} (leaving : Leaving session before.closed trace result after)
    (link : before.link = .connected session) : Accounts [] trace before after := by
  cases leaving with
  | agreed =>
      refine ⟨rfl, rfl, rfl, rfl, rfl, ?_⟩
      rw [link]
      rfl
  | failed fault =>
      refine ⟨rfl, rfl, rfl, rfl, rfl, ?_⟩
      rw [link]
      rfl

theorem Reannouncing.accounts {before after : Controller} {trace : Trace}
    {result : Except Fault Unit} (reannouncing : Reannouncing before trace result after) :
    Accounts [] trace before after := by
  cases reannouncing with
  | disconnected link announcing => exact announcing.accounts link
  | stuck session link fault => exact (Leaving.failed fault).accounts link
  | released session link announcing =>
      have left : Accounts [] [⟨.disconnect session, .ok ()⟩] before before.closed.released :=
        Leaving.agreed.accounts link
      exact left.append (announcing.accounts rfl)

theorem Beating.accounts {before after : Controller} {trace : Trace} {result : Except Fault Unit}
    (beating : Beating before trace result after) : Accounts [] trace before after := by
  cases beating with
  | idle => exact accounts_nothing before
  | heard session link =>
      refine ⟨rfl, rfl, rfl, rfl, rfl, ?_⟩
      have same : before.heard.link = before.link := rfl
      rw [same, link]
      rfl
  | failed session link fault fatal =>
      have uncounted := Wire.loss_fatal session fatal
      refine ⟨rfl, rfl, rfl, rfl, ?_, ?_⟩
      · simp [uncounted]
      · simp [uncounted, isOpening, isLeave]
  | lost session link what announcing =>
      have missed : Accounts [] [⟨.heartbeat session, .error (.timeout what)⟩] before before.lost := by
        refine ⟨rfl, rfl, rfl, rfl, rfl, ?_⟩
        rw [link]
        rfl
      exact missed.append ((announcing.accounts rfl).told _)

theorem Idling.accounts {tick remaining : Nat} {before after : Controller} {trace : Trace}
    {result : Except Fault Unit} (idling : Idling tick remaining before trace result after) :
    Accounts [] trace before after := by
  induction idling with
  | done tick before => exact accounts_nothing before
  | disconnected => exact accounts_nothing _
  | failed _ _ _ beating => exact beating.accounts.told _
  | ticked _ _ _ beating _ induction => exact (beating.accounts.append induction).told _

theorem Finishing.accounts {before after : Controller} {trace : Trace} {result : Except Fault Unit}
    (finishing : Finishing before trace result after) : Accounts [] trace before after := by
  cases finishing with
  | disconnected => exact accounts_nothing before
  | kept session => exact accounts_told _ before
  | left session link asked leaving => exact leaving.accounts link

/-- A command that falls silent ends an open session without a call. -/
theorem accounts_silenced (seconds : Nat) (before : Controller) :
    Accounts [⟨.dieHorribly seconds, before.link⟩] [⟨.pause seconds, ()⟩] before
      before.commanded.closed := by
  refine ⟨rfl, rfl, rfl, rfl, rfl, ?_⟩
  cases link : before.link with
  | disconnected => rfl
  | connected session => rfl

theorem accounts_commanded (command : Command) (before : Controller)
    (stays : ∀ seconds, command ≠ .dieHorribly seconds) :
    Accounts [⟨command, before.link⟩] [] before before.commanded := by
  refine ⟨rfl, rfl, rfl, rfl, rfl, ?_⟩
  have kept : Begun.givesUp ⟨command, before.link⟩ = false := by
    cases command with
    | dieHorribly seconds => exact absurd rfl (stays seconds)
    | _ => rfl
  have same : before.commanded.link = before.link := rfl
  simp [kept, same]

/-- The books do not look at the roster. -/
theorem Accounts.of_roster {begun : List Begun} {trace : Trace} {before after : Controller}
    {roster : Roster} (accounts : Accounts begun trace (before.withRoster roster) after) :
    Accounts begun trace before after :=
  ⟨accounts.commands, accounts.handshakes, accounts.heartbeats, accounts.disconnects,
    accounts.recoveries, accounts.balance⟩

theorem Obeying.accounts {command : Command} {before after : Controller} {trace : Trace}
    {result : Except Fault Unit} (obeying : Obeying command before.commanded trace result after) :
    Accounts [⟨command, before.link⟩] trace before after := by
  cases obeying with
  | enable device reannouncing =>
      have begun := accounts_commanded (.enable device) before fun _ same => nomatch same
      exact begun.append reannouncing.accounts.of_roster
  | missing device => exact accounts_commanded (.disable device) before fun _ same => nomatch same
  | disable device found roster present reannouncing =>
      have begun := accounts_commanded (.disable device) before fun _ same => nomatch same
      exact begun.append reannouncing.accounts.of_roster
  | dieHorribly seconds announcing =>
      have silenced := accounts_silenced seconds before
      exact (silenced.append (announcing.accounts rfl)).told _
  | sleep seconds idling =>
      have begun := accounts_commanded (.sleep seconds) before fun _ same => nomatch same
      exact begun.append idling.accounts

theorem Executing.accounts {command : Command} {before after : Controller} {trace : Trace}
    {result : Except Fault Unit} (executing : Executing command before trace result after) :
    Accounts [⟨command, before.link⟩] trace before after := by
  cases executing with
  | stopped obeying => exact obeying.accounts.told _
  | obeyed obeying beating => exact (obeying.accounts.append beating.accounts).told _

end Controller
end StandIn
