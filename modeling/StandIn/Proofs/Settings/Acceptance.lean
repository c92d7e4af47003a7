import StandIn.Proofs.Settings.Sections
import StandIn.Proofs.Toml.Rearranged

/-!
Which documents are settings. A document is accepted exactly if it has the keys that it must have
and no others than it may have, with values in their ranges. This is said of keys and values alone,
so the order in which a document gives them does not matter.
-/

set_option autoImplicit false

namespace StandIn.Settings

open Toml (Value Entries Distinct Rearranged)

/-! ## What a document has to say -/

/-- The table has no keys but these. -/
def Only (keys : List String) (entries : Entries) : Prop :=
  ∀ entry ∈ entries, entry.1 ∈ keys

structure ConnectionAcceptable (entries : Entries) : Prop where
  keys : Only ["dgi-hostname", "dgi-port", "listen-port"] entries
  host : ∃ host : String, ("dgi-hostname", .string host) ∈ entries ∧
    ∃ character ∈ host.toList, Text.isBlank character = false
  peerPort : ∃ number, ("dgi-port", .integer number) ∈ entries ∧ 0 ≤ number ∧ number ≤ 65535
  listenPort : ∃ number, ("listen-port", .integer number) ∈ entries ∧ 0 ≤ number ∧ number ≤ 65535

structure HeartbeatAcceptable (entries : Entries) : Prop where
  keys : Only ["hold-ms", "rest-ms", "connect-timeout-ms"] entries
  numbers : ∀ key value, (key, value) ∈ entries → ∃ number, value = .integer number ∧ 0 ≤ number
  timeout : ("connect-timeout-ms", .integer 0) ∉ entries

structure DisconnectAcceptable (entries : Entries) : Prop where
  keys : Only ["max-attempts", "backoff-ms"] entries
  attempts : ∀ value, ("max-attempts", value) ∈ entries →
    ∃ number, value = .integer number ∧ 0 ≤ number ∧ number ≤ 4294967295
  backoff : ∀ value, ("backoff-ms", value) ∈ entries →
    ∃ number, value = .integer number ∧ 0 ≤ number

/-- Everything that is asked of a document; its tables have no key twice. -/
structure Acceptable (document : Entries) : Prop where
  keys : Only ["connection", "heartbeat", "disconnect"] document
  connection : ∃ entries, ("connection", .table entries) ∈ document ∧ ConnectionAcceptable entries
  heartbeat : ∀ value, ("heartbeat", value) ∈ document →
    ∃ entries, value = .table entries ∧ HeartbeatAcceptable entries
  disconnect : ∀ value, ("disconnect", value) ∈ document →
    ∃ entries, value = .table entries ∧ DisconnectAcceptable entries

/-- No section is written as an array. -/
def Plain (document : Entries) : Prop :=
  ∀ heading ∈ ["connection", "heartbeat", "disconnect"], ∀ items,
    (heading, .array items) ∉ document

theorem Plain.no_array {document : Entries} (plain : Plain document) {heading : String}
    {value : Value} (member : (heading, value) ∈ document)
    (isSection : heading ∈ ["connection", "heartbeat", "disconnect"]) :
    ∀ items, value ≠ .array items := by
  rintro items rfl
  exact plain heading isSection items member

/-! ## Ranges -/

theorem as_number_accepts {width : Width} {value : Value} :
    (∃ number, asNumber width value = .ok number) ↔
      ∃ number, value = .integer number ∧ 0 ≤ number ∧ number ≤ width.bound - 1 := by
  constructor
  · rintro ⟨number, read⟩
    obtain ⟨rfl, fits⟩ := as_number_ok_iff.mp read
    exact ⟨number, rfl, Int.natCast_nonneg number, Int.le_sub_one_of_lt fits⟩
  · rintro ⟨number, rfl, positive, fits⟩
    refine ⟨number.toNat, as_number_ok_iff.mpr ?_⟩
    rw [Int.toNat_of_nonneg positive]
    exact ⟨rfl, Int.lt_of_le_sub_one fits⟩

theorem as_port_accepts {value : Value} :
    (∃ port, asPort value = .ok port) ↔
      ∃ number, value = .integer number ∧ 0 ≤ number ∧ number ≤ 65535 := by
  simp only [asPort, map_ok_iff, exists_result]
  exact as_number_accepts

theorem attempts_accepts {value : Value} :
    (∃ number, asNumber .thirtyTwo value = .ok number) ↔
      ∃ number, value = .integer number ∧ 0 ≤ number ∧ number ≤ 4294967295 :=
  as_number_accepts

/-- A whole number of a document that is not negative fits in 64 bits without sign. -/
theorem milliseconds_accepts {value : Value} (proper : value.Proper) :
    (∃ number, asNumber .sixtyFour value = .ok number) ↔
      ∃ number, value = .integer number ∧ 0 ≤ number := by
  rw [as_number_accepts]
  constructor
  · rintro ⟨number, same, positive, _⟩
    exact ⟨number, same, positive⟩
  · rintro ⟨number, rfl, positive⟩
    have fits := proper.fits
    simp only [isSigned64, Bool.and_eq_true, decide_eq_true_eq] at fits
    refine ⟨number, rfl, positive, ?_⟩
    simp only [Width.bound]
    omega

theorem all_blank_iff {text : String} :
    Text.allBlank text = false ↔ ∃ character ∈ text.toList, Text.isBlank character = false := by
  simp [Text.allBlank]

/-! ## Sections -/

variable {entries document : Entries}

theorem heartbeat_acceptable_iff (proper : entries.Proper) :
    (∃ timing, collect takeHeartbeat {} entries = .ok timing ∧ timing.connectTimeout ≠ 0) ↔
      HeartbeatAcceptable entries := by
  constructor
  · rintro ⟨timing, taken, patient⟩
    have each := (collect_accepts take_heartbeat_admits {} entries).mp ⟨timing, taken⟩
    constructor
    · intro entry member
      rcases each entry member with ⟨key, _⟩ | ⟨key, _⟩ | ⟨key, _⟩ <;> simp [key]
    · intro key value member
      apply (milliseconds_accepts (proper.each _ member)).mp
      rcases each _ member with ⟨_, read⟩ | ⟨_, read⟩ | ⟨_, read⟩ <;> exact read
    · intro member
      have zero := connect_timeout_governed.said proper.distinct taken member
      simp only [as_number_ok_iff, Value.integer.injEq] at zero
      omega
  · intro acceptable
    have each : ∃ timing, collect takeHeartbeat {} entries = .ok timing := by
      apply (collect_accepts take_heartbeat_admits {} entries).mpr
      intro entry member
      have read := (milliseconds_accepts (proper.each _ member)).mpr
        (acceptable.numbers _ _ member)
      have key := acceptable.keys entry member
      simp only [List.mem_cons, List.not_mem_nil, or_false] at key
      simpa [read] using key
    obtain ⟨timing, taken⟩ := each
    refine ⟨timing, taken, fun zero => ?_⟩
    rcases connect_timeout_governed.collected taken with ⟨value, member, read⟩ | ⟨_, unchanged⟩
    · obtain ⟨rfl, _⟩ := as_number_ok_iff.mp read
      rw [zero] at member
      exact acceptable.timeout member
    · rw [zero] at unchanged
      exact absurd unchanged (by decide)

theorem disconnect_acceptable_iff (proper : entries.Proper) :
    (∃ retry, collect takeDisconnect {} entries = .ok retry) ↔ DisconnectAcceptable entries := by
  rw [collect_accepts take_disconnect_admits]
  constructor
  · intro each
    constructor
    · intro entry member
      rcases each entry member with ⟨key, _⟩ | ⟨key, _⟩ <;> simp [key]
    · intro value member
      rcases each _ member with ⟨_, read⟩ | ⟨other, _⟩
      · exact attempts_accepts.mp read
      · exact absurd other (by simp)
    · intro value member
      rcases each _ member with ⟨other, _⟩ | ⟨_, read⟩
      · exact absurd other (by simp)
      · exact (milliseconds_accepts (proper.each _ member)).mp read
  · rintro acceptable ⟨key, value⟩ member
    have known := acceptable.keys _ member
    simp only [List.mem_cons, List.not_mem_nil, or_false] at known
    rcases known with rfl | rfl
    · exact .inl ⟨rfl, attempts_accepts.mpr (acceptable.attempts _ member)⟩
    · exact .inr ⟨rfl, (milliseconds_accepts (proper.each _ member)).mpr
        (acceptable.backoff _ member)⟩

theorem connection_acceptable_of_ok {endpoint : Endpoint}
    (read : connection (.table entries) = .ok endpoint)
    (filled : Text.allBlank endpoint.peerHost = false) : ConnectionAcceptable entries := by
  have noArray : ∀ items, Value.table entries ≠ .array items := nofun
  obtain ⟨_, same, taken⟩ := (connection_ok_iff noArray).mp read
  cases same
  have each := (collect_accepts take_connection_admits {} entries).mp ⟨_, taken⟩
  constructor
  · intro entry member
    rcases each entry member with ⟨key, _⟩ | ⟨key, _⟩ | ⟨key, _⟩ <;> simp [key]
  · obtain ⟨value, member, hostRead⟩ := host_governed.found taken rfl rfl
    rw [as_text_ok_iff.mp hostRead] at member
    exact ⟨endpoint.peerHost, member, all_blank_iff.mp filled⟩
  · obtain ⟨value, member, portRead⟩ := peer_port_governed.found taken rfl rfl
    obtain ⟨number, rfl, range⟩ := as_port_accepts.mp ⟨_, portRead⟩
    exact ⟨number, member, range⟩
  · obtain ⟨value, member, portRead⟩ := listen_port_governed.found taken rfl rfl
    obtain ⟨number, rfl, range⟩ := as_port_accepts.mp ⟨_, portRead⟩
    exact ⟨number, member, range⟩

theorem connection_ok_of_acceptable (proper : entries.Proper)
    (acceptable : ConnectionAcceptable entries) :
    ∃ endpoint, connection (.table entries) = .ok endpoint ∧
      Text.allBlank endpoint.peerHost = false := by
  have noArray : ∀ items, Value.table entries ≠ .array items := nofun
  obtain ⟨host, hostMember, filled⟩ := acceptable.host
  obtain ⟨peerNumber, peerMember, peerRange⟩ := acceptable.peerPort
  obtain ⟨listenNumber, listenMember, listenRange⟩ := acceptable.listenPort
  obtain ⟨peerPort, peerRead⟩ := as_port_accepts.mpr ⟨peerNumber, rfl, peerRange⟩
  obtain ⟨listenPort, listenRead⟩ := as_port_accepts.mpr ⟨listenNumber, rfl, listenRange⟩
  have distinct := proper.distinct
  have each : ∃ draft, collect takeConnection {} entries = .ok draft := by
    apply (collect_accepts take_connection_admits {} entries).mpr
    rintro ⟨key, value⟩ member
    have known := acceptable.keys _ member
    simp only [List.mem_cons, List.not_mem_nil, or_false] at known
    rcases known with rfl | rfl | rfl
    · rw [distinct.unique member hostMember]
      exact .inl ⟨rfl, host, rfl⟩
    · rw [distinct.unique member peerMember]
      exact .inr (.inl ⟨rfl, peerPort, peerRead⟩)
    · rw [distinct.unique member listenMember]
      exact .inr (.inr ⟨rfl, listenPort, listenRead⟩)
  obtain ⟨draft, taken⟩ := each
  have hostKnown := host_governed.item distinct taken hostMember rfl
  have peerKnown := peer_port_governed.item distinct taken peerMember peerRead
  have listenKnown := listen_port_governed.item distinct taken listenMember listenRead
  refine ⟨⟨host, peerPort, listenPort⟩, (connection_ok_iff noArray).mpr ⟨entries, rfl, ?_⟩,
    all_blank_iff.mpr filled⟩
  rw [taken, ← hostKnown, ← peerKnown, ← listenKnown]

/-! ## Documents -/

theorem checked_ok_iff {given settings : Settings} : checked given = .ok settings ↔
    given = settings ∧ Text.allBlank settings.endpoint.peerHost = false ∧
      settings.timing.connectTimeout ≠ 0 := by
  unfold checked
  constructor
  · intro accepted
    split at accepted
    · cases accepted
    · next filled =>
      split at accepted
      · cases accepted
      · next patient =>
        cases accepted
        exact ⟨rfl, by simpa using filled, patient⟩
  · rintro ⟨rfl, filled, patient⟩
    simp [filled, patient]

theorem of_entries_ok_iff {settings : Settings} : ofEntries document = .ok settings ↔
    collect takeSection {} document =
      .ok ⟨some settings.endpoint, settings.timing, settings.retry⟩ := by
  simp only [ofEntries, bind_ok_iff, required_ok_iff]
  constructor
  · rintro ⟨draft, taken, endpoint, known, same⟩
    cases same
    rw [taken, ← known]
  · intro taken
    exact ⟨_, taken, _, rfl, rfl⟩

theorem of_document_ok_iff {settings : Settings} : ofDocument document = .ok settings ↔
    collect takeSection {} document =
        .ok ⟨some settings.endpoint, settings.timing, settings.retry⟩ ∧
      Text.allBlank settings.endpoint.peerHost = false ∧ settings.timing.connectTimeout ≠ 0 := by
  rw [← of_entries_ok_iff, ofDocument]
  cases read : ofEntries document with
  | error fault => simp
  | ok given => simp [checked_ok_iff]

theorem acceptable_of_accepted (proper : document.Proper) (plain : Plain document)
    {settings : Settings} (accepted : ofDocument document = .ok settings) :
    Acceptable document := by
  obtain ⟨taken, filled, patient⟩ := of_document_ok_iff.mp accepted
  have each := (collect_accepts take_section_admits {} document).mp ⟨_, taken⟩
  constructor
  · intro entry member
    rcases each entry member with ⟨key, _⟩ | ⟨key, _⟩ | ⟨key, _⟩ <;> simp [key]
  · obtain ⟨value, member, read⟩ := endpoint_governed.found taken rfl rfl
    obtain ⟨entries, rfl, _⟩ := (connection_ok_iff (plain.no_array member (by simp))).mp read
    exact ⟨entries, member, connection_acceptable_of_ok read filled⟩
  · intro value member
    have read := timing_governed.said proper.distinct taken member
    obtain ⟨entries, rfl, timed⟩ := (heartbeat_ok_iff (plain.no_array member (by simp))).mp read
    exact ⟨entries, rfl, (heartbeat_acceptable_iff (proper.inner member)).mp ⟨_, timed, patient⟩⟩
  · intro value member
    have read := retry_governed.said proper.distinct taken member
    obtain ⟨entries, rfl, tried⟩ := (disconnect_ok_iff (plain.no_array member (by simp))).mp read
    exact ⟨entries, rfl, (disconnect_acceptable_iff (proper.inner member)).mp ⟨_, tried⟩⟩

theorem accepted_of_acceptable (proper : document.Proper) (acceptable : Acceptable document) :
    ∃ settings, ofDocument document = .ok settings := by
  obtain ⟨entries, connectionMember, connected⟩ := acceptable.connection
  obtain ⟨endpoint, endpointRead, filled⟩ :=
    connection_ok_of_acceptable (proper.inner connectionMember) connected
  have timed : ∀ value, ("heartbeat", value) ∈ document →
      ∃ timing, heartbeat value = .ok timing ∧ timing.connectTimeout ≠ 0 := by
    intro value member
    obtain ⟨entries, rfl, acceptableEntries⟩ := acceptable.heartbeat value member
    exact (heartbeat_acceptable_iff (proper.inner member)).mpr acceptableEntries
  have tried : ∀ value, ("disconnect", value) ∈ document →
      ∃ retry, disconnect value = .ok retry := by
    intro value member
    obtain ⟨entries, rfl, acceptableEntries⟩ := acceptable.disconnect value member
    exact (disconnect_acceptable_iff (proper.inner member)).mpr acceptableEntries
  have each : ∃ draft, collect takeSection {} document = .ok draft := by
    apply (collect_accepts take_section_admits {} document).mpr
    rintro ⟨key, value⟩ member
    have known := acceptable.keys _ member
    simp only [List.mem_cons, List.not_mem_nil, or_false] at known
    rcases known with rfl | rfl | rfl
    · rw [proper.distinct.unique member connectionMember]
      exact .inl ⟨rfl, endpoint, endpointRead⟩
    · obtain ⟨timing, read, _⟩ := timed value member
      exact .inr (.inl ⟨rfl, timing, read⟩)
    · exact .inr (.inr ⟨rfl, tried value member⟩)
  obtain ⟨draft, taken⟩ := each
  have known := endpoint_governed.item proper.distinct taken connectionMember endpointRead
  refine ⟨⟨endpoint, draft.timing, draft.retry⟩, of_document_ok_iff.mpr ⟨?_, filled, ?_⟩⟩
  · rw [taken, ← known]
  · rcases timing_governed.collected taken with ⟨value, member, said⟩ | ⟨_, unchanged⟩
    · obtain ⟨timing, read, patient⟩ := timed value member
      rw [said] at read
      cases read
      exact patient
    · show draft.timing.connectTimeout ≠ 0
      rw [unchanged]
      decide

/-! ## Order -/

variable {other : Entries}

theorem Only.rearranged {keys : List String} (rearranged : Rearranged entries other)
    (only : Only keys entries) : Only keys other := by
  rintro ⟨key, value⟩ member
  obtain ⟨original, originalMember, _⟩ := rearranged.symm.kept member
  exact only (key, original) originalMember

theorem ConnectionAcceptable.rearranged (rearranged : Rearranged entries other)
    (acceptable : ConnectionAcceptable entries) : ConnectionAcceptable other := by
  obtain ⟨host, hostMember, filled⟩ := acceptable.host
  obtain ⟨peerPort, peerMember, peerRange⟩ := acceptable.peerPort
  obtain ⟨listenPort, listenMember, listenRange⟩ := acceptable.listenPort
  exact ⟨acceptable.keys.rearranged rearranged,
    ⟨host, rearranged.kept_value hostMember nofun, filled⟩,
    ⟨peerPort, rearranged.kept_value peerMember nofun, peerRange⟩,
    ⟨listenPort, rearranged.kept_value listenMember nofun, listenRange⟩⟩

/-- What is asked of the values of a key, each of them a whole number, is asked in any order. -/
theorem integers_rearranged (rearranged : Rearranged entries other) {key : String}
    {Asked : Int → Prop}
    (integers : ∀ value, (key, value) ∈ entries →
      ∃ number, value = .integer number ∧ Asked number) :
    ∀ value, (key, value) ∈ other → ∃ number, value = .integer number ∧ Asked number := by
  intro value member
  obtain ⟨original, originalMember, alike⟩ := rearranged.symm.kept member
  obtain ⟨number, rfl, asked⟩ := integers original originalMember
  cases alike
  exact ⟨number, rfl, asked⟩

theorem HeartbeatAcceptable.rearranged (rearranged : Rearranged entries other)
    (acceptable : HeartbeatAcceptable entries) : HeartbeatAcceptable other := by
  refine ⟨acceptable.keys.rearranged rearranged, fun key => ?_, fun member => ?_⟩
  · exact integers_rearranged rearranged (acceptable.numbers key)
  · exact acceptable.timeout (rearranged.symm.kept_value member nofun)

theorem DisconnectAcceptable.rearranged (rearranged : Rearranged entries other)
    (acceptable : DisconnectAcceptable entries) : DisconnectAcceptable other :=
  ⟨acceptable.keys.rearranged rearranged, integers_rearranged rearranged acceptable.attempts,
    integers_rearranged rearranged acceptable.backoff⟩

/-- What is asked of the sections of a key, each of them a table, is asked in any order if it is
asked of a table in any order. -/
theorem tables_rearranged (rearranged : Rearranged document other) {key : String}
    {Asked : Entries → Prop}
    (keeps : ∀ {inner moved}, Rearranged inner moved → Asked inner → Asked moved)
    (tables : ∀ value, (key, value) ∈ document → ∃ inner, value = .table inner ∧ Asked inner) :
    ∀ value, (key, value) ∈ other → ∃ inner, value = .table inner ∧ Asked inner := by
  intro value member
  obtain ⟨original, originalMember, alike⟩ := rearranged.symm.kept member
  obtain ⟨inner, rfl, asked⟩ := tables original originalMember
  obtain ⟨moved, rfl, innerRearranged⟩ := alike.symm.table
  exact ⟨moved, rfl, keeps innerRearranged asked⟩

theorem Acceptable.rearranged (rearranged : Rearranged document other)
    (acceptable : Acceptable document) : Acceptable other := by
  obtain ⟨entries, member, connected⟩ := acceptable.connection
  obtain ⟨value, moved, alike⟩ := rearranged.kept member
  obtain ⟨inner, rfl, innerRearranged⟩ := alike.table
  exact ⟨acceptable.keys.rearranged rearranged,
    ⟨inner, moved, connected.rearranged innerRearranged⟩,
    tables_rearranged rearranged HeartbeatAcceptable.rearranged acceptable.heartbeat,
    tables_rearranged rearranged DisconnectAcceptable.rearranged acceptable.disconnect⟩

theorem Plain.rearranged (rearranged : Rearranged document other) (plain : Plain document) :
    Plain other := by
  intro heading isSection items member
  exact plain heading isSection items (rearranged.symm.kept_value member nofun)

end StandIn.Settings
