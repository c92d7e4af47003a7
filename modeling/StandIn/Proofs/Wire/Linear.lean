import StandIn.Proofs.Wire.Trace

/-!
What it means to use sessions one at a time and never after their end. `Linear` says it of the
places in a trace. `Orderly` says it by a monitor that follows the wire, keeps the session that is
open, and allows a call only where that session may be used or another one opened. The monitor is
what an induction can follow, and every trace that it allows is linear.
-/

set_option autoImplicit false

namespace StandIn.Wire

inductive Opens (session : Session) : Exchange Wire.Answer → Prop where
  | handshake (endpoint : Endpoint) (devices : List Device) :
      Opens session ⟨.handshake endpoint devices, .ok session⟩

inductive Uses (session : Session) : Exchange Wire.Answer → Prop where
  | heartbeat (outcome : Except Fault Unit) : Uses session ⟨.heartbeat session, outcome⟩
  | disconnect (outcome : Except Fault Unit) : Uses session ⟨.disconnect session, outcome⟩

/-- A session has ended once the peer was asked to let it go, whatever the answer, or has lost it,
or once the controller has fallen silent. -/
inductive Ends (session : Session) : Exchange Wire.Answer → Prop where
  | disconnect (outcome : Except Fault Unit) : Ends session ⟨.disconnect session, outcome⟩
  | timeout (what : String) : Ends session ⟨.heartbeat session, .error (.timeout what)⟩
  | pause (seconds : Nat) : Ends session ⟨.pause seconds, ()⟩

structure Linear (trace : Trace) : Prop where
  /-- A heartbeat or a disconnect is for the session that the latest handshake has opened. -/
  latest : ∀ earlier call later session, trace = earlier ++ call :: later → Uses session call →
    ∃ endpoint devices, latestHandshake earlier = some ⟨endpoint, devices, .ok session⟩
  /-- After the end of a session there is no heartbeat and no disconnect until a handshake has
  opened another. -/
  silent : ∀ earlier ending middle call later ended session,
    trace = earlier ++ ending :: (middle ++ call :: later) → Ends ended ending →
      Uses session call → ∃ opening ∈ middle, ∃ anew, Opens anew opening
  /-- After the opening of a session there is no handshake until that session has ended. -/
  closed : ∀ earlier opening middle endpoint devices outcome later session,
    trace = earlier ++ opening :: (middle ++ ⟨.handshake endpoint devices, outcome⟩ :: later) →
      Opens session opening → ∃ ending ∈ middle, Ends session ending

/-! ## The monitor -/

/-- The session that is open after an exchange, from the one that was open before it. -/
def openNext (opened : Option Session) : Exchange Wire.Answer → Option Session
  | ⟨.handshake _ _, .ok session⟩ => some session
  | ⟨.handshake _ _, .error _⟩ => none
  | ⟨.heartbeat _, .error (.timeout _)⟩ => none
  | ⟨.disconnect _, _⟩ => none
  | ⟨.pause _, _⟩ => none
  | _ => opened

def openAfter (opened : Option Session) (trace : Trace) : Option Session :=
  trace.foldl openNext opened

def Allowed (opened : Option Session) : Wire → Prop
  | .handshake _ _ => opened = none
  | .heartbeat session => opened = some session
  | .disconnect session => opened = some session
  | _ => True

def Orderly (opened : Option Session) : Trace → Prop
  | [] => True
  | exchange :: rest => Allowed opened exchange.request ∧ Orderly (openNext opened exchange) rest

theorem orderly_append (opened : Option Session) (first second : Trace) :
    Orderly opened (first ++ second) ↔
      Orderly opened first ∧ Orderly (openAfter opened first) second := by
  induction first generalizing opened with
  | nil => simp [Orderly, openAfter]
  | cons exchange rest induction =>
      simp only [List.cons_append, Orderly, induction, and_assoc]
      rfl

theorem open_after_append (opened : Option Session) (first second : Trace) :
    openAfter opened (first ++ second) = openAfter (openAfter opened first) second :=
  List.foldl_append

/-! ## What the monitor allows -/

theorem uses_allowed {opened : Option Session} {session : Session} {call : Exchange Wire.Answer}
    (allowed : Allowed opened call.request) (uses : Uses session call) : opened = some session := by
  cases uses <;> exact allowed

theorem open_next_ends {opened : Option Session} {session : Session} {ending : Exchange Wire.Answer}
    (ends : Ends session ending) : openNext opened ending = none := by
  cases ends <;> rfl

theorem open_next_handshake {opened : Option Session} {endpoint : Endpoint} {devices : List Device}
    {outcome : Except Fault Session} {session : Session}
    (next : openNext opened ⟨.handshake endpoint devices, outcome⟩ = some session) :
    outcome = .ok session := by
  cases outcome with
  | ok anew => exact congrArg Except.ok (Option.some.inj next)
  | error fault => cases next

theorem open_next_heartbeat {opened : Option Session} {session other : Session}
    {outcome : Except Fault Unit}
    (next : openNext opened ⟨.heartbeat session, outcome⟩ = some other) : opened = some other := by
  cases outcome with
  | ok => exact next
  | error fault =>
      cases fault with
      | timeout what => cases next
      | _ => exact next

/-- An exchange opens a session, or leaves none open, or is no handshake and changes nothing. -/
theorem open_next_cases (opened : Option Session) (exchange : Exchange Wire.Answer) :
    (∃ session, Opens session exchange ∧ openNext opened exchange = some session) ∨
      openNext opened exchange = none ∨
        announcement? exchange = none ∧ openNext opened exchange = opened := by
  obtain ⟨request, answer⟩ := exchange
  cases request with
  | narrate line => exact .inr (.inr ⟨rfl, rfl⟩)
  | handshake endpoint devices =>
      cases answer with
      | ok session => exact .inl ⟨session, .handshake endpoint devices, rfl⟩
      | error fault => exact .inr (.inl rfl)
  | heartbeat session =>
      cases answer with
      | ok => exact .inr (.inr ⟨rfl, rfl⟩)
      | error fault =>
          cases fault with
          | timeout what => exact .inr (.inl rfl)
          | _ => exact .inr (.inr ⟨rfl, rfl⟩)
  | disconnect session => exact .inr (.inl rfl)
  | pause seconds => exact .inr (.inl rfl)

/-- An allowed exchange leaves the open session open or ends it. -/
theorem open_next_some {session : Session} {exchange : Exchange Wire.Answer}
    (allowed : Allowed (some session) exchange.request) :
    openNext (some session) exchange = some session ∨ Ends session exchange := by
  obtain ⟨request, answer⟩ := exchange
  cases request with
  | narrate line => exact .inl rfl
  | handshake endpoint devices => cases allowed
  | heartbeat used =>
      cases allowed
      cases answer with
      | ok => exact .inl rfl
      | error fault =>
          cases fault with
          | timeout what => exact .inr (.timeout what)
          | _ => exact .inl rfl
  | disconnect used =>
      cases allowed
      exact .inr (.disconnect answer)
  | pause seconds => exact .inr (.pause seconds)

/-- A session that is open in the end was open from the beginning, without any handshake since, or
is the one that the latest handshake has opened. -/
theorem open_after_latest {session : Session} {opened : Option Session} {trace : Trace}
    (after : openAfter opened trace = some session) :
    opened = some session ∧ latestHandshake trace = none ∨
      ∃ endpoint devices, latestHandshake trace = some ⟨endpoint, devices, .ok session⟩ := by
  induction trace generalizing opened with
  | nil => exact .inl ⟨after, rfl⟩
  | cons exchange rest induction =>
      have split := latest_handshake_append [exchange] rest
      rw [List.singleton_append] at split
      rcases induction after with ⟨here, silent⟩ | ⟨endpoint, devices, latest⟩
      · rw [silent, Option.none_or] at split
        rcases open_next_cases opened exchange with
          ⟨offered, ⟨endpoint, devices⟩, next⟩ | next | ⟨other, next⟩
        · rw [next] at here
          cases here
          exact .inr ⟨endpoint, devices, split⟩
        · rw [next] at here
          cases here
        · rw [next] at here
          exact .inl ⟨here, split.trans (latest_handshake_other [] other)⟩
      · rw [latest, Option.some_or] at split
        exact .inr ⟨endpoint, devices, split⟩

/-- Where no session is open, one has to be opened before any is used. -/
theorem opens_before_use {middle later : Trace} {call : Exchange Wire.Answer} {session : Session}
    (orderly : Orderly none (middle ++ call :: later)) (uses : Uses session call) :
    ∃ opening ∈ middle, ∃ anew, Opens anew opening := by
  induction middle with
  | nil =>
      -- The use itself is not allowed without an open session.
      cases uses_allowed orderly.1 uses
  | cons exchange rest induction =>
      have after := orderly.2
      rcases open_next_cases none exchange with ⟨anew, opens, _⟩ | next | ⟨_, next⟩
      · exact ⟨exchange, List.mem_cons_self, anew, opens⟩
      all_goals
        rw [next] at after
        obtain ⟨opening, member, opens⟩ := induction after
        exact ⟨opening, List.mem_cons_of_mem exchange member, opens⟩

/-- Where a session is open, it has to end before another handshake. -/
theorem ends_before_handshake {middle later : Trace} {session : Session} {endpoint : Endpoint}
    {devices : List Device} {outcome : Except Fault Session}
    (orderly : Orderly (some session)
      (middle ++ ⟨.handshake endpoint devices, outcome⟩ :: later)) :
    ∃ ending ∈ middle, Ends session ending := by
  induction middle with
  | nil => cases orderly.1
  | cons exchange rest induction =>
      have after := orderly.2
      rcases open_next_some orderly.1 with next | ends
      · rw [next] at after
        obtain ⟨ending, member, ends⟩ := induction after
        exact ⟨ending, List.mem_cons_of_mem exchange member, ends⟩
      · exact ⟨exchange, List.mem_cons_self, ends⟩

theorem Orderly.linear {trace : Trace} (orderly : Orderly none trace) : Linear trace where
  latest earlier call later session split uses := by
    subst split
    have here := ((orderly_append none earlier (call :: later)).mp orderly).2
    rcases open_after_latest (uses_allowed here.1 uses) with ⟨none, _⟩ | latest
    · cases none
    · exact latest
  silent earlier ending middle call later ended session split ends uses := by
    subst split
    have here := ((orderly_append none earlier _).mp orderly).2.2
    rw [open_next_ends ends] at here
    exact opens_before_use here uses
  closed earlier opening middle endpoint devices outcome later session split opens := by
    subst split
    have here := ((orderly_append none earlier _).mp orderly).2.2
    cases opens
    exact ends_before_handshake here

end StandIn.Wire
