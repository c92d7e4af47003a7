import StandIn.Proofs.Toml.Proper
import StandIn.Settings.Document

/-!
Sections as tables. The entries of a table are taken one by one; whether one is taken depends on the
entry alone, and each part of what comes of a section is decided by the entries of one key. So a
section that is no array is taken exactly if each of its entries is, whatever their order.
-/

set_option autoImplicit false

namespace StandIn.Settings

open Toml (Value Entries Distinct)

/-! ## Values -/

theorem map_ok_iff {Item Result : Type} {given : Shaped Item} {change : Item → Result}
    {result : Result} :
    given.map change = .ok result ↔ ∃ item, given = .ok item ∧ change item = result := by
  cases given with
  | error fault => simp [Except.map]
  | ok item => simp [Except.map]

theorem bind_ok_iff {Item Result : Type} {given : Shaped Item} {next : Item → Shaped Result}
    {result : Result} :
    (given >>= next) = .ok result ↔ ∃ item, given = .ok item ∧ next item = .ok result := by
  cases given with
  | error fault => simp [bind, Except.bind]
  | ok item => simp [bind, Except.bind]

theorem as_text_ok_iff {value : Value} {text : String} :
    asText value = .ok text ↔ value = .string text := by
  cases value <;> simp [asText]

theorem as_number_ok_iff {width : Width} {value : Value} {number : Nat} :
    asNumber width value = .ok number ↔ value = .integer number ∧ (number : Int) < width.bound := by
  cases value with
  | integer given =>
      by_cases range : 0 ≤ given ∧ given < width.bound
      · rw [asNumber, if_pos range, Except.ok.injEq, Value.integer.injEq]
        omega
      · simp only [asNumber, if_neg range, reduceCtorEq, Value.integer.injEq, false_iff]
        omega
  | _ => simp [asNumber]

theorem as_port_ok_iff {value : Value} {port : Port} :
    asPort value = .ok port ↔ value = .integer port.toNat := by
  have small : (port.toNat : Int) < Width.sixteen.bound := by
    have bounded := port.toNat_lt
    simp only [Width.bound]
    omega
  rw [asPort, map_ok_iff]
  constructor
  · rintro ⟨number, read, rfl⟩
    obtain ⟨rfl, fits⟩ := as_number_ok_iff.mp read
    have whole : (UInt16.ofNat number).toNat = number := by
      rw [UInt16.toNat_ofNat']
      simp only [Width.bound] at fits
      omega
    rw [whole]
  · rintro rfl
    exact ⟨port.toNat, as_number_ok_iff.mpr ⟨rfl, small⟩, UInt16.ofNat_toNat⟩

/-! ## Entries taken in order -/

variable {Partial Item : Type} {take : Partial → String → Value → Shaped Partial}

theorem collect_accepts {Admits : String → Value → Prop}
    (admits : ∀ known key value, (∃ more, take known key value = .ok more) ↔ Admits key value)
    (known : Partial) (entries : Entries) :
    (∃ final, collect take known entries = .ok final) ↔
      ∀ entry ∈ entries, Admits entry.1 entry.2 := by
  induction entries generalizing known with
  | nil => simp [collect]
  | cons entry rest induction =>
      obtain ⟨key, value⟩ := entry
      rw [List.forall_mem_cons, ← admits known key value]
      cases taken : take known key value with
      | error fault => simp [collect, taken]
      | ok more =>
          rw [collect, taken, induction more]
          simp

theorem exists_result {Source Result : Type} {Read : Source → Prop} {change : Source → Result} :
    (∃ result, ∃ source, Read source ∧ change source = result) ↔ ∃ source, Read source := by
  rw [exists_comm]
  simp

/-- The entries of this key, and only they, decide this part of what is known: it is then what such
an entry says. -/
def Governs (take : Partial → String → Value → Shaped Partial) (key : String)
    (part : Partial → Item) (means : Value → Shaped Item) : Prop :=
  ∀ known other value more, take known other value = .ok more →
    other = key ∧ means value = .ok (part more) ∨ other ≠ key ∧ part more = part known

theorem Governs.collected {key : String} {part : Partial → Item} {means : Value → Shaped Item}
    (governs : Governs take key part means) {known final : Partial} {entries : Entries}
    (taken : collect take known entries = .ok final) :
    (∃ value, (key, value) ∈ entries ∧ means value = .ok (part final)) ∨
      (∀ value, (key, value) ∉ entries) ∧ part final = part known := by
  induction entries generalizing known with
  | nil =>
      cases taken
      exact .inr ⟨fun _ => List.not_mem_nil, rfl⟩
  | cons entry rest induction =>
      obtain ⟨other, value⟩ := entry
      rw [collect] at taken
      split at taken
      · cases taken
      · next more here =>
        -- the last entry of the key counts, this one only if none comes after it
        rcases induction taken with ⟨later, member, said⟩ | ⟨absent, unchanged⟩
        · exact .inl ⟨later, List.mem_cons_of_mem _ member, said⟩
        · rcases governs _ _ _ _ here with ⟨rfl, said⟩ | ⟨different, untouched⟩
          · exact .inl ⟨value, List.mem_cons_self, unchanged ▸ said⟩
          · refine .inr ⟨fun later member => ?_, unchanged.trans untouched⟩
            rcases List.mem_cons.mp member with equal | behind
            · cases equal
              exact different rfl
            · exact absent later behind

theorem Governs.said {key : String} {part : Partial → Item} {means : Value → Shaped Item}
    (governs : Governs take key part means) {known final : Partial} {entries : Entries}
    (distinct : Distinct entries) (taken : collect take known entries = .ok final) {value : Value}
    (member : (key, value) ∈ entries) : means value = .ok (part final) := by
  rcases governs.collected taken with ⟨other, otherMember, said⟩ | ⟨absent, _⟩
  · rw [distinct.unique member otherMember]
    exact said
  · exact absurd member (absent value)

theorem Governs.found {key : String} {part : Partial → Option Item} {read : Value → Shaped Item}
    (governs : Governs take key part fun value => (read value).map some) {known final : Partial}
    {entries : Entries} (taken : collect take known entries = .ok final)
    (unknown : part known = none) {item : Item} (settled : part final = some item) :
    ∃ value, (key, value) ∈ entries ∧ read value = .ok item := by
  rcases governs.collected taken with ⟨value, member, said⟩ | ⟨_, unchanged⟩
  · obtain ⟨other, isRead, same⟩ := map_ok_iff.mp said
    rw [settled] at same
    cases same
    exact ⟨value, member, isRead⟩
  · rw [unknown, settled] at unchanged
    cases unchanged

theorem Governs.item {key : String} {part : Partial → Option Item} {read : Value → Shaped Item}
    (governs : Governs take key part fun value => (read value).map some) {known final : Partial}
    {entries : Entries} (distinct : Distinct entries)
    (taken : collect take known entries = .ok final) {value : Value}
    (member : (key, value) ∈ entries) {item : Item} (isRead : read value = .ok item) :
    part final = some item := by
  obtain ⟨other, otherRead, same⟩ := map_ok_iff.mp (governs.said distinct taken member)
  rw [isRead] at otherRead
  cases otherRead
  exact same.symm

/-! ## The connection -/

theorem take_connection_ok_iff {known more : ConnectionDraft} {key : String} {value : Value} :
    takeConnection known key value = .ok more ↔
      (key = "dgi-hostname" ∧ ∃ text, asText value = .ok text ∧
        { known with host := some text } = more) ∨
      (key = "dgi-port" ∧ ∃ port, asPort value = .ok port ∧
        { known with peerPort := some port } = more) ∨
      (key = "listen-port" ∧ ∃ port, asPort value = .ok port ∧
        { known with listenPort := some port } = more) := by
  unfold takeConnection
  split
  · simp [map_ok_iff]
  · simp [map_ok_iff]
  · simp [map_ok_iff]
  · next noHost noPeerPort noListenPort =>
    refine ⟨nofun, ?_⟩
    rintro (⟨same, _⟩ | ⟨same, _⟩ | ⟨same, _⟩)
    · exact absurd same noHost
    · exact absurd same noPeerPort
    · exact absurd same noListenPort

theorem take_connection_admits (known : ConnectionDraft) (key : String) (value : Value) :
    (∃ more, takeConnection known key value = .ok more) ↔
      (key = "dgi-hostname" ∧ ∃ text, asText value = .ok text) ∨
      (key = "dgi-port" ∧ ∃ port, asPort value = .ok port) ∨
      (key = "listen-port" ∧ ∃ port, asPort value = .ok port) := by
  simp only [take_connection_ok_iff, exists_or, exists_and_left, exists_result]

theorem host_governed : Governs takeConnection "dgi-hostname" ConnectionDraft.host
    fun value => (asText value).map some := by
  intro known other value more taken
  rcases take_connection_ok_iff.mp taken with
    ⟨rfl, text, read, rfl⟩ | ⟨rfl, _, _, rfl⟩ | ⟨rfl, _, _, rfl⟩
  · exact .inl ⟨rfl, map_ok_iff.mpr ⟨text, read, rfl⟩⟩
  · exact .inr ⟨by decide, rfl⟩
  · exact .inr ⟨by decide, rfl⟩

theorem peer_port_governed : Governs takeConnection "dgi-port" ConnectionDraft.peerPort
    fun value => (asPort value).map some := by
  intro known other value more taken
  rcases take_connection_ok_iff.mp taken with
    ⟨rfl, _, _, rfl⟩ | ⟨rfl, port, read, rfl⟩ | ⟨rfl, _, _, rfl⟩
  · exact .inr ⟨by decide, rfl⟩
  · exact .inl ⟨rfl, map_ok_iff.mpr ⟨port, read, rfl⟩⟩
  · exact .inr ⟨by decide, rfl⟩

theorem listen_port_governed : Governs takeConnection "listen-port" ConnectionDraft.listenPort
    fun value => (asPort value).map some := by
  intro known other value more taken
  rcases take_connection_ok_iff.mp taken with
    ⟨rfl, _, _, rfl⟩ | ⟨rfl, _, _, rfl⟩ | ⟨rfl, port, read, rfl⟩
  · exact .inr ⟨by decide, rfl⟩
  · exact .inr ⟨by decide, rfl⟩
  · exact .inl ⟨rfl, map_ok_iff.mpr ⟨port, read, rfl⟩⟩

/-! ## The heartbeat -/

theorem take_heartbeat_ok_iff {known more : HeartbeatTiming} {key : String} {value : Value} :
    takeHeartbeat known key value = .ok more ↔
      (key = "hold-ms" ∧ ∃ number, asNumber .sixtyFour value = .ok number ∧
        { known with hold := number } = more) ∨
      (key = "rest-ms" ∧ ∃ number, asNumber .sixtyFour value = .ok number ∧
        { known with rest := number } = more) ∨
      (key = "connect-timeout-ms" ∧ ∃ number, asNumber .sixtyFour value = .ok number ∧
        { known with connectTimeout := number } = more) := by
  unfold takeHeartbeat
  split
  · simp [map_ok_iff]
  · simp [map_ok_iff]
  · simp [map_ok_iff]
  · next noHold noRest noTimeout =>
    refine ⟨nofun, ?_⟩
    rintro (⟨same, _⟩ | ⟨same, _⟩ | ⟨same, _⟩)
    · exact absurd same noHold
    · exact absurd same noRest
    · exact absurd same noTimeout

theorem take_heartbeat_admits (known : HeartbeatTiming) (key : String) (value : Value) :
    (∃ more, takeHeartbeat known key value = .ok more) ↔
      (key = "hold-ms" ∧ ∃ number, asNumber .sixtyFour value = .ok number) ∨
      (key = "rest-ms" ∧ ∃ number, asNumber .sixtyFour value = .ok number) ∨
      (key = "connect-timeout-ms" ∧ ∃ number, asNumber .sixtyFour value = .ok number) := by
  simp only [take_heartbeat_ok_iff, exists_or, exists_and_left, exists_result]

theorem hold_governed :
    Governs takeHeartbeat "hold-ms" HeartbeatTiming.hold (asNumber .sixtyFour) := by
  intro known other value more taken
  rcases take_heartbeat_ok_iff.mp taken with
    ⟨rfl, number, read, rfl⟩ | ⟨rfl, _, _, rfl⟩ | ⟨rfl, _, _, rfl⟩
  · exact .inl ⟨rfl, read⟩
  · exact .inr ⟨by decide, rfl⟩
  · exact .inr ⟨by decide, rfl⟩

theorem rest_governed :
    Governs takeHeartbeat "rest-ms" HeartbeatTiming.rest (asNumber .sixtyFour) := by
  intro known other value more taken
  rcases take_heartbeat_ok_iff.mp taken with
    ⟨rfl, _, _, rfl⟩ | ⟨rfl, number, read, rfl⟩ | ⟨rfl, _, _, rfl⟩
  · exact .inr ⟨by decide, rfl⟩
  · exact .inl ⟨rfl, read⟩
  · exact .inr ⟨by decide, rfl⟩

theorem connect_timeout_governed :
    Governs takeHeartbeat "connect-timeout-ms" HeartbeatTiming.connectTimeout
      (asNumber .sixtyFour) := by
  intro known other value more taken
  rcases take_heartbeat_ok_iff.mp taken with
    ⟨rfl, _, _, rfl⟩ | ⟨rfl, _, _, rfl⟩ | ⟨rfl, number, read, rfl⟩
  · exact .inr ⟨by decide, rfl⟩
  · exact .inr ⟨by decide, rfl⟩
  · exact .inl ⟨rfl, read⟩

/-! ## The disconnect -/

theorem take_disconnect_ok_iff {known more : RetryPolicy} {key : String} {value : Value} :
    takeDisconnect known key value = .ok more ↔
      (key = "max-attempts" ∧ ∃ number, asNumber .thirtyTwo value = .ok number ∧
        { known with maxAttempts := attemptBound number } = more) ∨
      (key = "backoff-ms" ∧ ∃ number, asNumber .sixtyFour value = .ok number ∧
        { known with backoffMilliseconds := number } = more) := by
  unfold takeDisconnect
  split
  · simp [map_ok_iff]
  · simp [map_ok_iff]
  · next noAttempts noBackoff =>
    refine ⟨nofun, ?_⟩
    rintro (⟨same, _⟩ | ⟨same, _⟩)
    · exact absurd same noAttempts
    · exact absurd same noBackoff

theorem take_disconnect_admits (known : RetryPolicy) (key : String) (value : Value) :
    (∃ more, takeDisconnect known key value = .ok more) ↔
      (key = "max-attempts" ∧ ∃ number, asNumber .thirtyTwo value = .ok number) ∨
      (key = "backoff-ms" ∧ ∃ number, asNumber .sixtyFour value = .ok number) := by
  simp only [take_disconnect_ok_iff, exists_or, exists_and_left, exists_result]

theorem max_attempts_governed : Governs takeDisconnect "max-attempts" RetryPolicy.maxAttempts
    fun value => (asNumber .thirtyTwo value).map attemptBound := by
  intro known other value more taken
  rcases take_disconnect_ok_iff.mp taken with ⟨rfl, number, read, rfl⟩ | ⟨rfl, _, _, rfl⟩
  · exact .inl ⟨rfl, map_ok_iff.mpr ⟨number, read, rfl⟩⟩
  · exact .inr ⟨by decide, rfl⟩

theorem backoff_governed : Governs takeDisconnect "backoff-ms" RetryPolicy.backoffMilliseconds
    (asNumber .sixtyFour) := by
  intro known other value more taken
  rcases take_disconnect_ok_iff.mp taken with ⟨rfl, _, _, rfl⟩ | ⟨rfl, number, read, rfl⟩
  · exact .inr ⟨by decide, rfl⟩
  · exact .inl ⟨rfl, read⟩

/-! ## The document -/

theorem take_section_ok_iff {known more : SettingsDraft} {key : String} {value : Value} :
    takeSection known key value = .ok more ↔
      (key = "connection" ∧ ∃ endpoint, connection value = .ok endpoint ∧
        { known with endpoint := some endpoint } = more) ∨
      (key = "heartbeat" ∧ ∃ timing, heartbeat value = .ok timing ∧
        { known with timing := timing } = more) ∨
      (key = "disconnect" ∧ ∃ retry, disconnect value = .ok retry ∧
        { known with retry := retry } = more) := by
  unfold takeSection
  split
  · simp [map_ok_iff]
  · simp [map_ok_iff]
  · simp [map_ok_iff]
  · next noConnection noHeartbeat noDisconnect =>
    refine ⟨nofun, ?_⟩
    rintro (⟨same, _⟩ | ⟨same, _⟩ | ⟨same, _⟩)
    · exact absurd same noConnection
    · exact absurd same noHeartbeat
    · exact absurd same noDisconnect

theorem take_section_admits (known : SettingsDraft) (key : String) (value : Value) :
    (∃ more, takeSection known key value = .ok more) ↔
      (key = "connection" ∧ ∃ endpoint, connection value = .ok endpoint) ∨
      (key = "heartbeat" ∧ ∃ timing, heartbeat value = .ok timing) ∨
      (key = "disconnect" ∧ ∃ retry, disconnect value = .ok retry) := by
  simp only [take_section_ok_iff, exists_or, exists_and_left, exists_result]

theorem endpoint_governed : Governs takeSection "connection" SettingsDraft.endpoint
    fun value => (connection value).map some := by
  intro known other value more taken
  rcases take_section_ok_iff.mp taken with
    ⟨rfl, endpoint, read, rfl⟩ | ⟨rfl, _, _, rfl⟩ | ⟨rfl, _, _, rfl⟩
  · exact .inl ⟨rfl, map_ok_iff.mpr ⟨endpoint, read, rfl⟩⟩
  · exact .inr ⟨by decide, rfl⟩
  · exact .inr ⟨by decide, rfl⟩

theorem timing_governed : Governs takeSection "heartbeat" SettingsDraft.timing heartbeat := by
  intro known other value more taken
  rcases take_section_ok_iff.mp taken with
    ⟨rfl, _, _, rfl⟩ | ⟨rfl, timing, read, rfl⟩ | ⟨rfl, _, _, rfl⟩
  · exact .inr ⟨by decide, rfl⟩
  · exact .inl ⟨rfl, read⟩
  · exact .inr ⟨by decide, rfl⟩

theorem retry_governed : Governs takeSection "disconnect" SettingsDraft.retry disconnect := by
  intro known other value more taken
  rcases take_section_ok_iff.mp taken with
    ⟨rfl, _, _, rfl⟩ | ⟨rfl, _, _, rfl⟩ | ⟨rfl, retry, read, rfl⟩
  · exact .inr ⟨by decide, rfl⟩
  · exact .inr ⟨by decide, rfl⟩
  · exact .inl ⟨rfl, read⟩

/-! ## Sections that are no arrays -/

/-- A date or time passes for a section, but for one with an entry that no section may have. -/
theorem section_ok_iff {Result : Type} {wanted : String} {known : List String} {value : Value}
    {next : Section → Shaped Result} {result : Result} (noArray : ∀ items, value ≠ .array items)
    (noMoment : next ⟨[(momentKey, .moment)], none⟩ ≠ .ok result) :
    (asSection wanted known value >>= next) = .ok result ↔
      ∃ entries, value = .table entries ∧ next ⟨entries, none⟩ = .ok result := by
  cases value with
  | table entries => simp [asSection, bind, Except.bind]
  | array items => exact absurd rfl (noArray items)
  | moment => simp [asSection, bind, Except.bind, noMoment]
  | _ => simp [asSection, bind, Except.bind]

theorem heartbeat_ok_iff {value : Value} (noArray : ∀ items, value ≠ .array items)
    {timing : HeartbeatTiming} : heartbeat value = .ok timing ↔
      ∃ entries, value = .table entries ∧ collect takeHeartbeat {} entries = .ok timing := by
  apply section_ok_iff noArray
  exact nofun

theorem disconnect_ok_iff {value : Value} (noArray : ∀ items, value ≠ .array items)
    {retry : RetryPolicy} : disconnect value = .ok retry ↔
      ∃ entries, value = .table entries ∧ collect takeDisconnect {} entries = .ok retry := by
  apply section_ok_iff noArray
  exact nofun

theorem required_ok_iff {key : String} {given : Option Item} {item : Item} :
    required key given = .ok item ↔ given = some item := by
  cases given <;> simp [required]

theorem connection_ok_iff {value : Value} (noArray : ∀ items, value ≠ .array items)
    {endpoint : Endpoint} : connection value = .ok endpoint ↔
      ∃ entries, value = .table entries ∧ collect takeConnection {} entries =
        .ok ⟨some endpoint.peerHost, some endpoint.peerPort, some endpoint.listenPort⟩ := by
  unfold connection
  refine (section_ok_iff noArray ?_).trans ?_
  · exact nofun
  · simp only [bind_ok_iff, required_ok_iff]
    constructor
    · rintro ⟨entries, rfl, draft, taken, _, host, _, peerPort, _, listenPort, same⟩
      cases same
      refine ⟨entries, rfl, ?_⟩
      rw [taken, ← host, ← peerPort, ← listenPort]
    · rintro ⟨entries, rfl, taken⟩
      exact ⟨entries, rfl, _, taken, _, rfl, _, rfl, _, rfl, rfl⟩

end StandIn.Settings
