import StandIn.Proofs.Reply.Ports

/-!
What of a reply does not matter. A reply is told by its words, and of these only the port keys with
the words behind them count, or without a key the two verdicts. Other words may stand anywhere but
between a key and its value, and the two keys with their values may change places.
-/

set_option autoImplicit false

namespace StandIn.Reply

def portKeys : List String := ["StatePort", "HeartbeatPort"]

def verdictWords : List String := ["Accepted", "Rejected"]

/-- A word that these words may get as a companion. No key is one, and a verdict only where a key
takes precedence over it. -/
def Harmless (words : List String) (word : String) : Prop :=
  word ∉ portKeys ∧ (word ∉ verdictWords ∨ ∃ key ∈ portKeys, key ∈ words)

/-- The next word would stand directly behind the first occurrence of a key. -/
def EndsInKey (words : List String) : Prop :=
  ∃ front, ∃ key ∈ portKeys, words = front ++ [key] ∧ key ∉ front

/-- Words and the same words with harmless ones put in between, in any number and at any places but
directly behind the first occurrence of a key. -/
inductive Padded (words : List String) : List String → Prop where
  | same : Padded words words
  | inserted {before after : List String} (padded : Padded words (before ++ after))
      (noise : List String) (harmless : ∀ word ∈ noise, Harmless (before ++ after) word)
      (place : ¬ EndsInKey before) : Padded words (before ++ noise ++ after)

/-- Words with each key once, and the same words with the keys and the words behind them exchanged.
The word behind a key is no key. -/
inductive Swapped : List String → List String → Prop where
  | swapped (before between after : List String) {key other : String} (value otherValue : String)
      (keys : [key, other].Perm portKeys) (plain : value ∉ portKeys) (otherPlain : otherValue ∉ portKeys)
      (once : (before ++ key :: value :: (between ++ other :: otherValue :: after)).count key = 1)
      (otherOnce :
        (before ++ key :: value :: (between ++ other :: otherValue :: after)).count other = 1) :
      Swapped (before ++ key :: value :: (between ++ other :: otherValue :: after))
        (before ++ other :: otherValue :: (between ++ key :: value :: after))

/-- The same reply, said by another text. It differs only if it makes no sense and quotes the text as
a whole. -/
def quoting (whole : String) : Reply → Reply
  | malformed (.oneKeyOnly _) => malformed (.oneKeyOnly whole)
  | malformed (.unrecognised _) => malformed (.unrecognised whole)
  | reply => reply

/-! ## The value of a key -/

variable {key : String} {front words other : List String}

theorem value_after_skip (absent : key ∉ front) (rest : List String) :
    valueAfter key (front ++ rest) = valueAfter key rest := by
  induction front with
  | nil => rfl
  | cons word others induction =>
      simp only [List.mem_cons, not_or] at absent
      rw [List.cons_append, valueAfter, if_neg (Ne.symm absent.1), induction absent.2]

theorem value_after_first (absent : key ∉ front) (rest : List String) :
    valueAfter key (front ++ key :: rest) = some (rest.headD "") := by
  rw [value_after_skip absent, valueAfter, if_pos rfl]

theorem value_after_none_iff : valueAfter key words = none ↔ key ∉ words := by
  constructor
  · intro none member
    rw [value_after_eq member] at none
    cases none
  · intro absent
    have skipped := value_after_skip absent []
    simpa [valueAfter] using skipped

/-- A key keeps its value if it does not come last among the words before. -/
theorem value_after_insert {before noise : List String} (isKey : key ∈ portKeys)
    (place : ¬ EndsInKey before) (absent : key ∉ noise) (after : List String) :
    valueAfter key (before ++ noise ++ after) = valueAfter key (before ++ after) := by
  by_cases early : key ∈ before
  · obtain ⟨front, rest, rfl, first⟩ := List.eq_append_cons_of_mem early
    have more : rest ≠ [] := by
      rintro rfl
      exact place ⟨front, key, isKey, rfl, first⟩
    obtain ⟨value, others, rfl⟩ := List.exists_cons_of_ne_nil more
    simp only [List.append_assoc, List.cons_append, value_after_first first, List.headD_cons]
  · rw [List.append_assoc, value_after_skip early, value_after_skip absent, value_after_skip early]

/-! ## Words that do not count -/

theorem of_words_ports {stateWord heartbeatWord : String}
    (state : valueAfter "StatePort" words = some stateWord)
    (heartbeat : valueAfter "HeartbeatPort" words = some heartbeatWord) (whole : String) :
    ofWords whole words = ofPortWords stateWord heartbeatWord := by
  simp only [ofWords, state, heartbeat]

theorem of_port_words_quoting (stateWord heartbeatWord whole : String) :
    (ofPortWords stateWord heartbeatWord).quoting whole = ofPortWords stateWord heartbeatWord := by
  simp only [ofPortWords, portNumber]
  cases Text.integer? stateWord <;> cases Text.integer? heartbeatWord <;> simp [quoting]

/-- All that is looked at in the words: the values of the keys, and without a key the verdicts. -/
theorem of_words_alike
    (values : ∀ key ∈ portKeys, valueAfter key other = valueAfter key words)
    (verdicts : (∀ key ∈ portKeys, key ∉ words) →
      ∀ verdict ∈ verdictWords, verdict ∈ other ↔ verdict ∈ words) (whole spoken : String) :
    ofWords spoken other = (ofWords whole words).quoting spoken := by
  have state := values "StatePort" (by simp [portKeys])
  have heartbeat := values "HeartbeatPort" (by simp [portKeys])
  cases stateValue : valueAfter "StatePort" words with
  | some stateWord =>
      rw [stateValue] at state
      cases heartbeatValue : valueAfter "HeartbeatPort" words with
      | some heartbeatWord =>
          rw [heartbeatValue] at heartbeat
          rw [of_words_ports state heartbeat, of_words_ports stateValue heartbeatValue,
            of_port_words_quoting]
      | none =>
          rw [heartbeatValue] at heartbeat
          simp [ofWords, state, heartbeat, stateValue, heartbeatValue, quoting]
  | none =>
      rw [stateValue] at state
      cases heartbeatValue : valueAfter "HeartbeatPort" words with
      | some heartbeatWord =>
          rw [heartbeatValue] at heartbeat
          simp [ofWords, state, heartbeat, stateValue, heartbeatValue, quoting]
      | none =>
          rw [heartbeatValue] at heartbeat
          have keyless : ∀ key ∈ portKeys, key ∉ words := by
            simpa [portKeys] using
              ⟨value_after_none_iff.mp stateValue, value_after_none_iff.mp heartbeatValue⟩
          have accepted := verdicts keyless "Accepted" (by simp [verdictWords])
          have rejected := verdicts keyless "Rejected" (by simp [verdictWords])
          simp only [ofWords, state, heartbeat, stateValue, heartbeatValue, accepted, rejected]
          by_cases agreed : "Accepted" ∈ words
          · simp [agreed, quoting]
          · by_cases refused : "Rejected" ∈ words
            · simp [agreed, refused, quoting]
            · simp [agreed, refused, quoting]

theorem quoting_quoting (reply : Reply) (whole spoken : String) :
    (reply.quoting whole).quoting spoken = reply.quoting spoken := by
  cases reply with
  | malformed cause => cases cause <;> rfl
  | _ => rfl

theorem Padded.of_words (padded : Padded words other) (whole spoken : String) :
    ofWords spoken other = (ofWords whole words).quoting spoken := by
  induction padded generalizing spoken with
  | same =>
      apply of_words_alike
      · simp
      · simp
  | @inserted before after _ noise harmless place induction =>
      -- Whether a verdict counts is told by the words before it was put in.
      rw [← quoting_quoting, ← induction whole]
      apply of_words_alike
      · intro key isKey
        apply value_after_insert isKey place
        intro member
        exact (harmless key member).1 isKey
      · intro keyless verdict isVerdict
        have silent : verdict ∉ noise := by
          intro member
          rcases (harmless verdict member).2 with other | ⟨key, isKey, present⟩
          · exact other isVerdict
          · exact keyless key isKey present
        simp [silent]

/-! ## Keys that change places -/

theorem absent_of_count_one {before after : List String}
    (once : (before ++ key :: after).count key = 1) : key ∉ before ∧ key ∉ after := by
  simp only [List.count_append, List.count_cons_self] at once
  constructor
  · apply List.not_mem_of_count_eq_zero
    omega
  · apply List.not_mem_of_count_eq_zero
    omega

/-- Each key comes with the same word behind it in either order. -/
theorem Swapped.values {first second : List String} (swapped : Swapped first second) :
    ∀ key ∈ portKeys, ∃ value,
      valueAfter key first = some value ∧ valueAfter key second = some value := by
  cases swapped with
  | @swapped before between after key other value otherValue keys plain otherPlain once otherOnce =>
      obtain ⟨early, behind⟩ := absent_of_count_one once
      have regrouped : before ++ key :: value :: (between ++ other :: otherValue :: after) =
          (before ++ key :: value :: between) ++ other :: otherValue :: after := by
        simp
      have otherRegrouped : before ++ other :: otherValue :: (between ++ key :: value :: after) =
          (before ++ other :: otherValue :: between) ++ key :: value :: after := by
        simp
      obtain ⟨otherEarly, otherBehind⟩ := absent_of_count_one (regrouped ▸ otherOnce)
      simp only [List.mem_append, List.mem_cons, not_or] at early behind otherEarly otherBehind
      intro found isKey
      have either : found = key ∨ found = other := by simpa using keys.mem_iff.mpr isKey
      rcases either with rfl | rfl
      · refine ⟨value, value_after_first early _, ?_⟩
        rw [otherRegrouped]
        apply value_after_first
        simp [early, behind]
      · refine ⟨otherValue, ?_, value_after_first otherEarly.1 _⟩
        rw [regrouped]
        apply value_after_first
        simp [otherEarly]

theorem Swapped.of_words {first second : List String} (swapped : Swapped first second)
    (whole spoken : String) : ofWords spoken second = ofWords whole first := by
  obtain ⟨stateWord, state, stateLater⟩ := swapped.values "StatePort" (by simp [portKeys])
  obtain ⟨heartbeatWord, heartbeat, heartbeatLater⟩ :=
    swapped.values "HeartbeatPort" (by simp [portKeys])
  rw [of_words_ports state heartbeat, of_words_ports stateLater heartbeatLater]

/-- A reply depends on its words alone, but for what it quotes of the text. Harmless words do not
change it, wherever they stand but directly behind a key, and neither does the order of the two keys
with their values. -/
theorem noise_is_ignored (first second : String) :
    (Text.words first = Text.words second → ofText second = (ofText first).quoting second) ∧
    (Padded (Text.words first) (Text.words second) →
      ofText second = (ofText first).quoting second) ∧
    (Swapped (Text.words first) (Text.words second) → ofText second = ofText first) := by
  refine ⟨?_, ?_, ?_⟩
  · intro same
    have padded : Padded (Text.words first) (Text.words second) := same ▸ .same
    exact padded.of_words first second
  · intro padded
    exact padded.of_words first second
  · intro swapped
    exact swapped.of_words first second

/-- Words around an announcement, among them both verdicts, and an announcement the other way round. -/
theorem noise_is_ignored_announced :
    let plain := "StatePort 4000 HeartbeatPort 4001"
    let spread := "StatePort  4000\r\nHeartbeatPort 4001\r\n"
    let noisy := "Accepted StatePort 4000 is Rejected HeartbeatPort 4001"
    let turned := "HeartbeatPort 4001 StatePort 4000"
    (Text.words plain = Text.words spread ∧ ofText spread = (ofText plain).quoting spread) ∧
      (Padded (Text.words plain) (Text.words noisy) ∧
        ofText noisy = (ofText plain).quoting noisy) ∧
      Swapped (Text.words plain) (Text.words turned) ∧ ofText turned = ofText plain := by
  intro plain spread noisy turned
  have words : Text.words plain = ["StatePort", "4000", "HeartbeatPort", "4001"] := by decide
  have sameWords : Text.words plain = Text.words spread := by decide
  have padded : Padded (Text.words plain) (Text.words noisy) := by
    have noisyWords : Text.words noisy = [] ++ ["Accepted"] ++
        ["StatePort", "4000", "is", "Rejected", "HeartbeatPort", "4001"] := by decide
    have behindValue : ¬ EndsInKey ["StatePort", "4000"] := by
      rintro ⟨front, key, isKey, same, _⟩
      have last := congrArg List.getLast? same
      simp only [List.getLast?_append, List.getLast?_singleton] at last
      obtain rfl : "4000" = key := by simpa using last
      simp [portKeys] at isKey
    have inner : Padded ["StatePort", "4000", "HeartbeatPort", "4001"]
        (["StatePort", "4000"] ++ ["is", "Rejected"] ++ ["HeartbeatPort", "4001"]) :=
      .inserted .same ["is", "Rejected"] (by simp [Harmless, portKeys, verdictWords]) behindValue
    have before : Padded ["StatePort", "4000", "HeartbeatPort", "4001"]
        ([] ++ ["StatePort", "4000", "is", "Rejected", "HeartbeatPort", "4001"]) := inner
    rw [words, noisyWords]
    exact .inserted before ["Accepted"] (by simp [Harmless, portKeys]) (by simp [EndsInKey])
  have swapped : Swapped (Text.words plain) (Text.words turned) := by
    have turnedWords : Text.words turned = ["HeartbeatPort", "4001", "StatePort", "4000"] := by
      decide
    rw [words, turnedWords]
    apply Swapped.swapped [] [] [] "4000" "4001" <;> decide
  exact ⟨⟨sameWords, (noise_is_ignored plain spread).1 sameWords⟩,
    ⟨padded, (noise_is_ignored plain noisy).2.1 padded⟩,
    swapped, (noise_is_ignored plain turned).2.2 swapped⟩

end StandIn.Reply
