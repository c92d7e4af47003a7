import StandIn.Proofs.Settings.Acceptance
import StandIn.Proofs.Toml.Reading

/-!
Which settings a document is. They carry each value as the document gives it, and the default where
it gives none. The main statement puts this beside what is accepted: for every document without
sections written as arrays, acceptance and settings are told from its keys and values, and so are
the same in whatever order it gives them. It holds of any reader of documents that finds no key
twice in a table and no whole number beyond 64 bits, and the one that the program uses is such a
reader.
-/

set_option autoImplicit false

namespace StandIn.Settings

open Toml (Value Entries Distinct Rearranged)

/-- The document has the value under the key in the section. -/
def Given (document : Entries) (heading key : String) (value : Value) : Prop :=
  ∃ entries, (heading, .table entries) ∈ document ∧ (key, value) ∈ entries

def Omitted (document : Entries) (heading key : String) : Prop :=
  ∀ value, ¬ Given document heading key value

/-- The number is given under the key in the section, or none is and it is the default. -/
def GivenOr (default : Nat) (document : Entries) (heading key : String) (number : Nat) : Prop :=
  Given document heading key (.integer number) ∨ Omitted document heading key ∧ number = default

/-- Each of the settings is what the document gives for it, unchanged, or the default. Attempts are
without a bound exactly if the bound is given as zero or not at all. -/
structure Carries (document : Entries) (settings : Settings) : Prop where
  host : Given document "connection" "dgi-hostname" (.string settings.endpoint.peerHost)
  peerPort : Given document "connection" "dgi-port" (.integer settings.endpoint.peerPort.toNat)
  listenPort : Given document "connection" "listen-port"
    (.integer settings.endpoint.listenPort.toNat)
  hold : GivenOr 500 document "heartbeat" "hold-ms" settings.timing.hold
  rest : GivenOr 500 document "heartbeat" "rest-ms" settings.timing.rest
  connectTimeout : GivenOr 5000 document "heartbeat" "connect-timeout-ms"
    settings.timing.connectTimeout
  backoff : GivenOr 0 document "disconnect" "backoff-ms" settings.retry.backoffMilliseconds
  unbounded : settings.retry.maxAttempts = none ↔
    Given document "disconnect" "max-attempts" (.integer 0) ∨
      Omitted document "disconnect" "max-attempts"
  bounded : ∀ bound, settings.retry.maxAttempts = some bound →
    Given document "disconnect" "max-attempts" (.integer bound.toNat)

variable {document other : Entries} {heading key : String}

theorem Given.unique (proper : document.Proper) {first second : Value}
    (firstGiven : Given document heading key first)
    (secondGiven : Given document heading key second) : first = second := by
  obtain ⟨entries, entriesMember, firstMember⟩ := firstGiven
  obtain ⟨others, othersMember, secondMember⟩ := secondGiven
  cases proper.distinct.unique entriesMember othersMember
  exact (proper.inner entriesMember).distinct.unique firstMember secondMember

theorem Given.same_number (proper : document.Proper) {first second : Nat}
    (firstGiven : Given document heading key (.integer first))
    (secondGiven : Given document heading key (.integer second)) : first = second :=
  Int.ofNat.inj (Value.integer.inj (firstGiven.unique proper secondGiven))

/-! ## From sections to their parts -/

variable {Partial Item : Type} {take : Partial → String → Value → Shaped Partial}

/-- What has come of a section: what its entries make of the defaults, or these if there is no such
section. -/
def Drawn (document : Entries) (heading : String)
    (take : Partial → String → Value → Shaped Partial) (defaults final : Partial) : Prop :=
  (∃ entries, (heading, .table entries) ∈ document ∧ collect take defaults entries = .ok final) ∨
    (∀ value, (heading, value) ∉ document) ∧ final = defaults

theorem Drawn.part {defaults final : Partial} (drawn : Drawn document heading take defaults final)
    (distinct : Distinct document) {part : Partial → Item} {means : Value → Shaped Item}
    (governs : Governs take key part means) :
    (∃ value, Given document heading key value ∧ means value = .ok (part final)) ∨
      Omitted document heading key ∧ part final = part defaults := by
  rcases drawn with ⟨entries, entriesMember, taken⟩ | ⟨absent, rfl⟩
  · rcases governs.collected taken with ⟨value, member, said⟩ | ⟨missing, unchanged⟩
    · exact .inl ⟨value, ⟨entries, entriesMember, member⟩, said⟩
    · refine .inr ⟨?_, unchanged⟩
      rintro value ⟨others, othersMember, member⟩
      cases distinct.unique entriesMember othersMember
      exact missing value member
  · refine .inr ⟨?_, rfl⟩
    rintro value ⟨entries, entriesMember, _⟩
    exact absent _ entriesMember

theorem Drawn.number {defaults final : Partial} (drawn : Drawn document heading take defaults final)
    (distinct : Distinct document) {part : Partial → Nat} {width : Width}
    (governs : Governs take key part (asNumber width)) :
    GivenOr (part defaults) document heading key (part final) := by
  rcases drawn.part distinct governs with ⟨value, given, read⟩ | omitted
  · rw [(as_number_ok_iff.mp read).1] at given
    exact .inl given
  · exact .inr omitted

theorem attempt_bound_none_iff {number : Nat} : attemptBound number = none ↔ number = 0 := by
  simp [attemptBound]

theorem attempt_bound_some {number : Nat} {bound : UInt32} (fits : (number : Int) < 4294967296)
    (bounded : attemptBound number = some bound) : bound.toNat = number := by
  simp only [attemptBound, Option.ite_none_left_eq_some, Option.some.injEq] at bounded
  rw [← bounded.2, UInt32.toNat_ofNat']
  omega

theorem section_drawn {part : SettingsDraft → Partial} {read : Value → Shaped Partial}
    (governs : Governs takeSection heading part read)
    (tables : ∀ {value final}, (heading, value) ∈ document → read value = .ok final →
      ∃ entries, value = .table entries ∧ collect take (part {}) entries = .ok final)
    {draft : SettingsDraft} (taken : collect takeSection {} document = .ok draft) :
    Drawn document heading take (part {}) (part draft) := by
  rcases governs.collected taken with ⟨value, member, isRead⟩ | absent
  · obtain ⟨entries, rfl, collected⟩ := tables member isRead
    exact .inl ⟨entries, member, collected⟩
  · exact .inr absent

theorem carries_of_accepted (proper : document.Proper) (plain : Plain document)
    {settings : Settings} (accepted : ofDocument document = .ok settings) :
    Carries document settings := by
  obtain ⟨taken, _, _⟩ := of_document_ok_iff.mp accepted
  obtain ⟨value, member, read⟩ := endpoint_governed.found taken rfl rfl
  obtain ⟨entries, rfl, connected⟩ := (connection_ok_iff (plain.no_array member (by simp))).mp read
  obtain ⟨host, hostMember, hostRead⟩ := host_governed.found connected rfl rfl
  obtain ⟨peerPort, peerMember, peerRead⟩ := peer_port_governed.found connected rfl rfl
  obtain ⟨listenPort, listenMember, listenRead⟩ := listen_port_governed.found connected rfl rfl
  cases as_text_ok_iff.mp hostRead
  cases as_port_ok_iff.mp peerRead
  cases as_port_ok_iff.mp listenRead
  have distinct := proper.distinct
  have timed := section_drawn timing_governed
    (fun member => (heartbeat_ok_iff (plain.no_array member (by simp))).mp) taken
  have tried := section_drawn retry_governed
    (fun member => (disconnect_ok_iff (plain.no_array member (by simp))).mp) taken
  have attempts := tried.part distinct max_attempts_governed
  constructor
  · exact ⟨entries, member, hostMember⟩
  · exact ⟨entries, member, peerMember⟩
  · exact ⟨entries, member, listenMember⟩
  · exact timed.number distinct hold_governed
  · exact timed.number distinct rest_governed
  · exact timed.number distinct connect_timeout_governed
  · exact tried.number distinct backoff_governed
  · rcases attempts with ⟨value, given, said⟩ | ⟨omitted, unchanged⟩
    · obtain ⟨number, numberRead, same⟩ := map_ok_iff.mp said
      cases (as_number_ok_iff.mp numberRead).1
      rw [← same, attempt_bound_none_iff]
      constructor
      · rintro rfl
        exact .inl given
      · rintro (zero | omitted)
        · cases zero.unique proper given
          rfl
        · exact absurd given (omitted _)
    · exact iff_of_true unchanged (.inr omitted)
  · intro bound bounded
    rcases attempts with ⟨value, given, said⟩ | ⟨_, unchanged⟩
    · obtain ⟨number, numberRead, same⟩ := map_ok_iff.mp said
      obtain ⟨rfl, fits⟩ := as_number_ok_iff.mp numberRead
      rw [attempt_bound_some fits (same.trans bounded)]
      exact given
    · rw [bounded] at unchanged
      cases unchanged

/-! ## One document, one settings -/

theorem GivenOr.unique (proper : document.Proper) {default first second : Nat}
    (firstGiven : GivenOr default document heading key first)
    (secondGiven : GivenOr default document heading key second) : first = second := by
  rcases firstGiven with firstGiven | ⟨firstOmitted, rfl⟩
  · rcases secondGiven with secondGiven | ⟨omitted, _⟩
    · exact firstGiven.same_number proper secondGiven
    · exact absurd firstGiven (omitted _)
  · rcases secondGiven with secondGiven | ⟨_, rfl⟩
    · exact absurd secondGiven (firstOmitted _)
    · rfl

theorem Carries.same_attempts (proper : document.Proper) {first second : Settings}
    (firstCarries : Carries document first) (secondCarries : Carries document second) :
    first.retry.maxAttempts = second.retry.maxAttempts := by
  cases firstBound : first.retry.maxAttempts with
  | none => exact (secondCarries.unbounded.mpr (firstCarries.unbounded.mp firstBound)).symm
  | some bound =>
      cases secondBound : second.retry.maxAttempts with
      | none =>
          rw [firstCarries.unbounded.mpr (secondCarries.unbounded.mp secondBound)] at firstBound
          cases firstBound
      | some other =>
          have same := (firstCarries.bounded bound firstBound).same_number proper
            (secondCarries.bounded other secondBound)
          rw [UInt32.toNat_inj.mp same]

theorem Carries.unique (proper : document.Proper) {first second : Settings}
    (firstCarries : Carries document first) (secondCarries : Carries document second) :
    first = second := by
  have host := Value.string.inj (firstCarries.host.unique proper secondCarries.host)
  have peerPort := UInt16.toNat_inj.mp
    (firstCarries.peerPort.same_number proper secondCarries.peerPort)
  have listenPort := UInt16.toNat_inj.mp
    (firstCarries.listenPort.same_number proper secondCarries.listenPort)
  have hold := firstCarries.hold.unique proper secondCarries.hold
  have rest := firstCarries.rest.unique proper secondCarries.rest
  have connectTimeout := firstCarries.connectTimeout.unique proper secondCarries.connectTimeout
  have backoff := firstCarries.backoff.unique proper secondCarries.backoff
  have attempts := firstCarries.same_attempts proper secondCarries
  obtain ⟨⟨_, _, _⟩, ⟨_, _, _⟩, ⟨_, _⟩⟩ := first
  obtain ⟨⟨_, _, _⟩, ⟨_, _, _⟩, ⟨_, _⟩⟩ := second
  cases host
  cases peerPort
  cases listenPort
  cases hold
  cases rest
  cases connectTimeout
  cases backoff
  cases attempts
  rfl

/-- The settings that are accepted from a document are those that its keys and values tell. -/
theorem of_document_exact (proper : document.Proper) (plain : Plain document)
    {settings : Settings} :
    ofDocument document = .ok settings ↔ Acceptable document ∧ Carries document settings := by
  constructor
  · intro accepted
    exact ⟨acceptable_of_accepted proper plain accepted, carries_of_accepted proper plain accepted⟩
  · rintro ⟨acceptable, carries⟩
    obtain ⟨given, accepted⟩ := accepted_of_acceptable proper acceptable
    rw [carries.unique proper (carries_of_accepted proper plain accepted)]
    exact accepted

/-! ## Order -/

theorem Given.rearranged (rearranged : Rearranged document other) {value : Value}
    (given : Given document heading key value) (noTable : ∀ entries, value ≠ .table entries) :
    Given other heading key value := by
  obtain ⟨entries, entriesMember, member⟩ := given
  obtain ⟨moved, movedMember, alike⟩ := rearranged.kept entriesMember
  obtain ⟨inner, rfl, innerRearranged⟩ := alike.table
  exact ⟨inner, movedMember, innerRearranged.kept_value member noTable⟩

theorem Omitted.rearranged (rearranged : Rearranged document other)
    (omitted : Omitted document heading key) : Omitted other heading key := by
  rintro value ⟨entries, entriesMember, member⟩
  obtain ⟨original, originalMember, alike⟩ := rearranged.symm.kept entriesMember
  obtain ⟨inner, rfl, innerRearranged⟩ := alike.table
  obtain ⟨innerValue, innerMember, _⟩ := innerRearranged.kept member
  exact omitted innerValue ⟨inner, originalMember, innerMember⟩

theorem GivenOr.rearranged (rearranged : Rearranged document other) {default number : Nat}
    (given : GivenOr default document heading key number) :
    GivenOr default other heading key number := by
  rcases given with given | ⟨omitted, same⟩
  · exact .inl (given.rearranged rearranged nofun)
  · exact .inr ⟨omitted.rearranged rearranged, same⟩

theorem Carries.rearranged (rearranged : Rearranged document other) {settings : Settings}
    (carries : Carries document settings) : Carries other settings := by
  constructor
  · exact carries.host.rearranged rearranged nofun
  · exact carries.peerPort.rearranged rearranged nofun
  · exact carries.listenPort.rearranged rearranged nofun
  · exact carries.hold.rearranged rearranged
  · exact carries.rest.rearranged rearranged
  · exact carries.connectTimeout.rearranged rearranged
  · exact carries.backoff.rearranged rearranged
  · rw [carries.unbounded]
    constructor
    · rintro (zero | omitted)
      · exact .inl (zero.rearranged rearranged nofun)
      · exact .inr (omitted.rearranged rearranged)
    · rintro (zero | omitted)
      · exact .inl (zero.rearranged rearranged.symm nofun)
      · exact .inr (omitted.rearranged rearranged.symm)
  · intro bound bounded
    exact (carries.bounded bound bounded).rearranged rearranged nofun

theorem of_text_exact {readToml : String → Option Entries} {text : String}
    (read : readToml text = some document) (proper : document.Proper) (plain : Plain document)
    {settings : Settings} :
    ofText readToml text = .ok settings ↔ Acceptable document ∧ Carries document settings := by
  rw [ofText, read]
  exact of_document_exact proper plain

/-- Take any reader of documents with distinct keys and numbers of 64 bits, and any text that it
reads as a document with no section written as an array. The text is accepted exactly if its keys
are those that settings must and may have, with values in their ranges. The settings are then what it
gives, with defaults for what it omits. And any text whose document says the same in another order,
of the sections or of the entries in them, is accepted as well, as the same settings, or not accepted
either. -/
theorem acceptance_is_exact (readToml : String → Option Entries)
    (proper : ∀ text document, readToml text = some document → document.Proper) (text : String)
    (document : Entries) (read : readToml text = some document) (plain : Plain document) :
    ((∃ settings, ofText readToml text = .ok settings) ↔ Acceptable document) ∧
    (∀ settings, ofText readToml text = .ok settings → Carries document settings) ∧
    (∀ otherText other, readToml otherText = some other → Rearranged document other →
      ∀ settings, ofText readToml text = .ok settings ↔ ofText readToml otherText = .ok settings) := by
  have ownProper := proper text document read
  refine ⟨⟨?_, ?_⟩, ?_, ?_⟩
  · rintro ⟨settings, accepted⟩
    exact ((of_text_exact read ownProper plain).mp accepted).1
  · intro acceptable
    rw [ofText, read]
    exact accepted_of_acceptable ownProper acceptable
  · intro settings accepted
    exact ((of_text_exact read ownProper plain).mp accepted).2
  · intro otherText other otherRead rearranged settings
    have otherProper := proper otherText other otherRead
    have otherPlain := plain.rearranged rearranged
    rw [of_text_exact read ownProper plain, of_text_exact otherRead otherProper otherPlain]
    constructor
    · rintro ⟨acceptable, carries⟩
      exact ⟨acceptable.rearranged rearranged, carries.rearranged rearranged⟩
    · rintro ⟨acceptable, carries⟩
      exact ⟨acceptable.rearranged rearranged.symm, carries.rearranged rearranged.symm⟩

/-- With the reader of the program. The sections and two entries of one change places. The host keeps
its blanks, the ports are the greatest and the least, and no attempts at all stand for attempts
without end. -/
theorem acceptance_is_exact_reordered :
    let host := ("dgi-hostname", Value.string " peer ")
    let connection : Entries := [host, ("listen-port", .integer 65535), ("dgi-port", .integer 0)]
    let moved : Entries := [host, ("dgi-port", .integer 0), ("listen-port", .integer 65535)]
    let disconnect : Entries := [("max-attempts", .integer 0)]
    let document : Entries := [("disconnect", .table disconnect), ("connection", .table connection)]
    let other : Entries := [("connection", .table moved), ("disconnect", .table disconnect)]
    let text := "disconnect = \x7bmax-attempts = 0\x7d\n[connection]\n" ++
      "dgi-hostname = ' peer '\nlisten-port = 65535\ndgi-port = 0\n"
    let otherText := "connection = \x7bdgi-hostname = ' peer ', dgi-port = 0, " ++
      "listen-port = 65535\x7d\ndisconnect.max-attempts = 0\n"
    Toml.ofText? text = some document ∧ Plain document ∧ Toml.ofText? otherText = some other ∧
      Rearranged document other ∧
        ∃ settings, ofText Toml.ofText? text = .ok settings ∧
          ofText Toml.ofText? otherText = .ok settings ∧
            Carries document settings ∧ settings.retry.maxAttempts = none := by
  intro host connection moved disconnect document other text otherText
  have read : Toml.ofText? text = some document := by
    unfold text document connection disconnect host
    decide +kernel
  have otherRead : Toml.ofText? otherText = some other := by
    unfold otherText other moved disconnect host
    decide +kernel
  have plain : Plain document := by simp [Plain, document]
  have rearranged : Rearranged document other := by
    have inner : Rearranged connection moved := .moved (.cons _ (.swap _ _ _))
    exact (Rearranged.within [("disconnect", .table disconnect)] [] "connection" inner).trans
      (.moved (.swap _ _ _))
  have connected : ConnectionAcceptable connection := by
    refine ⟨by simp [Only, connection, host], ⟨" peer ", by simp [connection, host], 'p', ?_⟩, ?_, ?_⟩
    · decide
    · exact ⟨0, by simp [connection], by decide⟩
    · exact ⟨65535, by simp [connection], by decide⟩
  have disconnected : DisconnectAcceptable disconnect :=
    ⟨by simp [Only, disconnect], by simp [disconnect], by simp [disconnect]⟩
  have acceptable : Acceptable document := by
    refine ⟨by simp [Only, document], ⟨connection, by simp [document], connected⟩, ?_, ?_⟩
    · simp [document]
    · intro value member
      have same : value = .table disconnect := by simpa [document] using member
      exact ⟨disconnect, same, disconnected⟩
  obtain ⟨accepts, carries, ordered⟩ := acceptance_is_exact Toml.ofText?
    (fun _ _ => Toml.of_text_proper) text document read plain
  obtain ⟨settings, accepted⟩ := accepts.mpr acceptable
  have carried := carries settings accepted
  have otherAccepted := (ordered otherText other otherRead rearranged settings).mp accepted
  refine ⟨read, plain, otherRead, rearranged, settings, accepted, otherAccepted, carried, ?_⟩
  exact carried.unbounded.mpr (.inl ⟨disconnect, by simp [document], by simp [disconnect]⟩)

end StandIn.Settings
