import StandIn.Proofs.Text.Decimal
import StandIn.Tcp.Wire

/-!
The ports that a Start reply announces. Numbers of any length pass through 128 bits with sign and
then through the check of a port, and neither changes a number that is a port nor makes a port of
one that is not.
-/

set_option autoImplicit false

namespace StandIn

namespace Session

/-- The unbounded integers that are ports. -/
def IsPort (number : Int) : Prop := 0 ≤ number ∧ number ≤ 65535

theorem checked_port_ok {number : Int} (isPort : IsPort number) (label : String) :
    checkedPort label number = .ok (UInt16.ofNat number.toNat) := by
  have range : 0 ≤ number ∧ number < 65536 := ⟨isPort.1, Int.lt_add_one_of_le isPort.2⟩
  rw [checkedPort, if_pos range]

theorem checked_port_error {number : Int} (noPort : ¬ IsPort number) (label : String) :
    checkedPort label number =
      .error (.configuration (label ++ " " ++ Text.ofInt number ++ " not sensible")) := by
  have range : ¬ (0 ≤ number ∧ number < 65536) := fun inside =>
    noPort ⟨inside.1, Int.le_of_lt_add_one inside.2⟩
  rw [checkedPort, if_neg range]

theorem of_ports_ok {statePort heartbeatPort : Int} (stateIsPort : IsPort statePort)
    (heartbeatIsPort : IsPort heartbeatPort) (endpoint : Endpoint) :
    ofPorts endpoint statePort heartbeatPort =
      .ok ⟨endpoint, UInt16.ofNat statePort.toNat, UInt16.ofNat heartbeatPort.toNat⟩ := by
  rw [ofPorts, checked_port_ok stateIsPort, checked_port_ok heartbeatIsPort]
  rfl

theorem of_ports_state_error {statePort : Int} (noPort : ¬ IsPort statePort) (endpoint : Endpoint)
    (heartbeatPort : Int) :
    ofPorts endpoint statePort heartbeatPort =
      .error (.configuration ("StatePort " ++ Text.ofInt statePort ++ " not sensible")) := by
  rw [ofPorts, checked_port_error noPort]
  rfl

theorem of_ports_heartbeat_error {statePort heartbeatPort : Int} (stateIsPort : IsPort statePort)
    (noPort : ¬ IsPort heartbeatPort) (endpoint : Endpoint) :
    ofPorts endpoint statePort heartbeatPort =
      .error (.configuration ("HeartbeatPort " ++ Text.ofInt heartbeatPort ++ " not sensible")) := by
  rw [ofPorts, checked_port_ok stateIsPort, checked_port_error noPort]
  rfl

theorem port_to_nat {number : Int} (isPort : IsPort number) :
    ((UInt16.ofNat number.toNat).toNat : Int) = number :=
  checked_port_to_nat (checked_port_ok isPort "")

theorem of_nat_port {port : Port} {number : Int} (same : (port.toNat : Int) = number) :
    UInt16.ofNat number.toNat = port := by
  rw [← same, Int.toNat_natCast, UInt16.ofNat_toNat]

end Session

namespace Reply

open Session (IsPort)

/-- The word directly after the first occurrence of a key, empty if no word follows it. -/
def wordAfter (key : String) (words : List String) : String :=
  words.getD (words.idxOf key + 1) ""

theorem value_after_eq {key : String} {words : List String} (member : key ∈ words) :
    valueAfter key words = some (wordAfter key words) := by
  induction words with
  | nil => cases member
  | cons word rest induction =>
      by_cases same : word = key
      · subst same
        rw [valueAfter, if_pos rfl, wordAfter, List.idxOf_cons_self]
        cases rest <;> rfl
      · have later : key ∈ rest := (List.mem_cons.mp member).resolve_left fun equal => same equal.symm
        rw [valueAfter, if_neg same, induction later, wordAfter, wordAfter,
          List.idxOf_cons, beq_false_of_ne same]
        rfl

/-- The word is an integer with or without a sign, of any length. -/
def IsNumeric (word : String) : Prop := ∃ number, Text.Denotes word.toList number

theorem port_number_ok {word : String} {number : Int} (denotes : Text.Denotes word.toList number) :
    portNumber word = .ok (clamp number) := by
  rw [portNumber, Text.integer_eq_some_iff.mpr denotes]

theorem port_number_error {word : String} (notNumeric : ¬ IsNumeric word) :
    portNumber word = .error (.notNumeric word) := by
  cases read : Text.integer? word with
  | none => rw [portNumber, read]
  | some number => exact absurd ⟨number, Text.integer_eq_some_iff.mp read⟩ notNumeric

/-- What is kept of an integer in 128 bits with sign: itself if it fits, else the end of the range on
its side. -/
structure Saturates (number kept : Int) : Prop where
  fits : -170141183460469231731687303715884105728 ≤ number →
    number ≤ 170141183460469231731687303715884105727 → kept = number
  above : 170141183460469231731687303715884105727 < number →
    kept = 170141183460469231731687303715884105727
  below : number < -170141183460469231731687303715884105728 →
    kept = -170141183460469231731687303715884105728

theorem clamp_saturates (number : Int) : Saturates number (clamp number) := by
  unfold clamp leastNumber greatestNumber
  constructor <;> omega

theorem clamp_port {number : Int} (isPort : IsPort number) : clamp number = number := by
  obtain ⟨lower, upper⟩ := isPort
  unfold clamp leastNumber greatestNumber
  omega

theorem is_port_clamp_iff {number : Int} : IsPort (clamp number) ↔ IsPort number := by
  unfold IsPort clamp leastNumber greatestNumber
  omega

theorem of_text_eq {text : String} (stateKey : "StatePort" ∈ Text.words text)
    (heartbeatKey : "HeartbeatPort" ∈ Text.words text) :
    ofText text = ofPortWords (wordAfter "StatePort" (Text.words text))
      (wordAfter "HeartbeatPort" (Text.words text)) := by
  rw [ofText, ofWords, value_after_eq stateKey, value_after_eq heartbeatKey]

variable {stateWord heartbeatWord : String} {statePort heartbeatPort : Int}

theorem of_port_words_start (state : Text.Denotes stateWord.toList statePort)
    (heartbeat : Text.Denotes heartbeatWord.toList heartbeatPort) :
    ofPortWords stateWord heartbeatWord = start (clamp statePort) (clamp heartbeatPort) := by
  rw [ofPortWords, port_number_ok state, port_number_ok heartbeat]

theorem of_port_words_state_malformed (notNumeric : ¬ IsNumeric stateWord) (heartbeatWord : String) :
    ofPortWords stateWord heartbeatWord = malformed (.notNumeric stateWord) := by
  rw [ofPortWords, port_number_error notNumeric]

theorem of_port_words_heartbeat_malformed (numeric : IsNumeric stateWord)
    (notNumeric : ¬ IsNumeric heartbeatWord) :
    ofPortWords stateWord heartbeatWord = malformed (.notNumeric heartbeatWord) := by
  obtain ⟨number, denotes⟩ := numeric
  rw [ofPortWords, port_number_ok denotes, port_number_error notNumeric]

/-! ## From a reply to a session -/

theorem open_session_ok_numeric {endpoint : Endpoint} {session : Session}
    (opened : Tcp.openSession endpoint (ofPortWords stateWord heartbeatWord) = .ok session) :
    IsNumeric stateWord ∧ IsNumeric heartbeatWord := by
  by_cases state : IsNumeric stateWord
  · by_cases heartbeat : IsNumeric heartbeatWord
    · exact ⟨state, heartbeat⟩
    · rw [of_port_words_heartbeat_malformed state heartbeat] at opened
      cases opened
  · rw [of_port_words_state_malformed state] at opened
    cases opened

theorem of_ports_ok_is_port {endpoint : Endpoint} {session : Session}
    (opened : Session.ofPorts endpoint statePort heartbeatPort = .ok session) :
    IsPort statePort ∧ IsPort heartbeatPort := by
  by_cases state : IsPort statePort
  · by_cases heartbeat : IsPort heartbeatPort
    · exact ⟨state, heartbeat⟩
    · rw [Session.of_ports_heartbeat_error state heartbeat] at opened
      cases opened
  · rw [Session.of_ports_state_error state] at opened
    cases opened

theorem open_session_ok_iff (endpoint : Endpoint) (session : Session) :
    Tcp.openSession endpoint (ofPortWords stateWord heartbeatWord) = .ok session ↔
      ∃ statePort heartbeatPort, Text.Denotes stateWord.toList statePort ∧
        Text.Denotes heartbeatWord.toList heartbeatPort ∧ IsPort statePort ∧ IsPort heartbeatPort ∧
          session.endpoint = endpoint ∧ (session.statePort.toNat : Int) = statePort ∧
            (session.heartbeatPort.toNat : Int) = heartbeatPort := by
  constructor
  · intro opened
    obtain ⟨⟨statePort, state⟩, ⟨heartbeatPort, heartbeat⟩⟩ := open_session_ok_numeric opened
    rw [of_port_words_start state heartbeat, Tcp.openSession] at opened
    obtain ⟨stateIsPort, heartbeatIsPort⟩ := of_ports_ok_is_port opened
    rw [is_port_clamp_iff] at stateIsPort heartbeatIsPort
    rw [clamp_port stateIsPort, clamp_port heartbeatIsPort,
      Session.of_ports_ok stateIsPort heartbeatIsPort] at opened
    cases opened
    exact ⟨statePort, heartbeatPort, state, heartbeat, stateIsPort, heartbeatIsPort, rfl,
      Session.port_to_nat stateIsPort, Session.port_to_nat heartbeatIsPort⟩
  · rintro ⟨statePort, heartbeatPort, state, heartbeat, stateIsPort, heartbeatIsPort, rfl, sameState,
      sameHeartbeat⟩
    rw [of_port_words_start state heartbeat, Tcp.openSession, clamp_port stateIsPort,
      clamp_port heartbeatIsPort, Session.of_ports_ok stateIsPort heartbeatIsPort,
      Session.of_nat_port sameState, Session.of_nat_port sameHeartbeat]

/-- With both keys in a reply, what follows their first occurrences decides alone. A session comes
of it exactly if both words are integers, of any length and with or without a sign, and both
integers are ports, and these are its ports. A word that is no integer makes the reply malformed
and is quoted, the state port's first; an integer that is no port makes a configuration fault, the
state port's first, with the number kept as far as 128 bits with sign hold it. -/
theorem announced_ports_exact (endpoint : Endpoint) (text : String)
    (stateKey : "StatePort" ∈ Text.words text) (heartbeatKey : "HeartbeatPort" ∈ Text.words text) :
    let stateWord := wordAfter "StatePort" (Text.words text)
    let heartbeatWord := wordAfter "HeartbeatPort" (Text.words text)
    (∀ session, Tcp.openSession endpoint (ofText text) = .ok session ↔
      ∃ statePort heartbeatPort, Text.Denotes stateWord.toList statePort ∧
        Text.Denotes heartbeatWord.toList heartbeatPort ∧ IsPort statePort ∧ IsPort heartbeatPort ∧
          session.endpoint = endpoint ∧ (session.statePort.toNat : Int) = statePort ∧
            (session.heartbeatPort.toNat : Int) = heartbeatPort) ∧
    (¬ IsNumeric stateWord → ∃ cause, ofText text = malformed cause ∧
      cause.message = "expected a numeric port, found " ++ Text.quoted stateWord) ∧
    (IsNumeric stateWord → ¬ IsNumeric heartbeatWord → ∃ cause, ofText text = malformed cause ∧
      cause.message = "expected a numeric port, found " ++ Text.quoted heartbeatWord) ∧
    (∀ statePort heartbeatPort, Text.Denotes stateWord.toList statePort →
      Text.Denotes heartbeatWord.toList heartbeatPort →
        ∃ keptState keptHeartbeat, Saturates statePort keptState ∧
          Saturates heartbeatPort keptHeartbeat ∧ ofText text = start keptState keptHeartbeat ∧
            (¬ IsPort statePort → Tcp.openSession endpoint (ofText text) = .error (.configuration
              ("StatePort " ++ Text.ofInt keptState ++ " not sensible"))) ∧
            (IsPort statePort → ¬ IsPort heartbeatPort →
              Tcp.openSession endpoint (ofText text) = .error (.configuration
                ("HeartbeatPort " ++ Text.ofInt keptHeartbeat ++ " not sensible")))) := by
  intro stateWord heartbeatWord
  rw [of_text_eq stateKey heartbeatKey]
  refine ⟨open_session_ok_iff endpoint, fun notNumeric => ?_, fun numeric notNumeric => ?_, ?_⟩
  · exact ⟨_, of_port_words_state_malformed notNumeric heartbeatWord, rfl⟩
  · exact ⟨_, of_port_words_heartbeat_malformed numeric notNumeric, rfl⟩
  · intro statePort heartbeatPort state heartbeat
    rw [of_port_words_start state heartbeat, Tcp.openSession]
    refine ⟨clamp statePort, clamp heartbeatPort, clamp_saturates statePort,
      clamp_saturates heartbeatPort, rfl, fun noPort => ?_, fun isPort noPort => ?_⟩
    · rw [← is_port_clamp_iff] at noPort
      exact Session.of_ports_state_error noPort endpoint (clamp heartbeatPort)
    · rw [← is_port_clamp_iff] at isPort noPort
      exact Session.of_ports_heartbeat_error isPort noPort endpoint

/-- Numbers that are no ports: two that fit 128 bits, named as they are, and one beyond each end of
them. In the last two texts the keys stand in the other order, and `-0` is the port zero. -/
theorem announced_ports_exact_out_of_range :
    let endpoint : Endpoint := ⟨"localhost", 1870, 5001⟩
    let refused (text reason : String) : Prop :=
      "StatePort" ∈ Text.words text ∧ "HeartbeatPort" ∈ Text.words text ∧
        Tcp.openSession endpoint (ofText text) = .error (.configuration reason)
    refused "StatePort 70000 HeartbeatPort -2" "StatePort 70000 not sensible" ∧
      refused "StatePort +07 HeartbeatPort -2" "HeartbeatPort -2 not sensible" ∧
      refused "HeartbeatPort 999999999999999999999999999999999999999999 StatePort -0"
        "HeartbeatPort 170141183460469231731687303715884105727 not sensible" ∧
      refused "HeartbeatPort 1 StatePort -999999999999999999999999999999999999999999"
        "StatePort -170141183460469231731687303715884105728 not sensible" := by
  intro endpoint refused
  have announced (text : String) (state heartbeat : Int)
      (keys : "StatePort" ∈ Text.words text ∧ "HeartbeatPort" ∈ Text.words text)
      (stateRead : Text.integer? (wordAfter "StatePort" (Text.words text)) = some state)
      (heartbeatRead : Text.integer? (wordAfter "HeartbeatPort" (Text.words text)) = some heartbeat) :=
    (announced_ports_exact endpoint text keys.1 keys.2).2.2.2 state heartbeat
      (Text.integer_eq_some_iff.mp stateRead) (Text.integer_eq_some_iff.mp heartbeatRead)
  have noPort {number : Int} (outside : number < 0 ∨ 65535 < number) : ¬ IsPort number := by
    unfold IsPort
    omega
  have zero : IsPort 0 := ⟨by decide, by decide⟩
  have seven : IsPort 7 := ⟨by decide, by decide⟩
  refine ⟨?fittingState, ?fittingHeartbeat, ?above, ?below⟩
  case fittingState =>
    obtain ⟨_, _, kept, _, _, refusal, _⟩ := announced "StatePort 70000 HeartbeatPort -2" 70000 (-2)
      (by decide) rfl rfl
    cases kept.fits (by decide) (by decide)
    exact ⟨by decide, by decide, refusal (noPort (by decide))⟩
  case fittingHeartbeat =>
    obtain ⟨_, _, _, kept, _, _, refusal⟩ := announced "StatePort +07 HeartbeatPort -2" 7 (-2)
      (by decide) rfl rfl
    cases kept.fits (by decide) (by decide)
    exact ⟨by decide, by decide, refusal seven (noPort (by decide))⟩
  case above =>
    obtain ⟨_, _, _, kept, _, _, refusal⟩ := announced
      "HeartbeatPort 999999999999999999999999999999999999999999 StatePort -0" 0
      999999999999999999999999999999999999999999 (by decide) rfl rfl
    cases kept.above (by decide)
    exact ⟨by decide, by decide, refusal zero (noPort (by decide))⟩
  case below =>
    obtain ⟨_, _, kept, _, _, refusal, _⟩ := announced
      "HeartbeatPort 1 StatePort -999999999999999999999999999999999999999999"
      (-999999999999999999999999999999999999999999) 1 (by decide) rfl rfl
    cases kept.below (by decide)
    exact ⟨by decide, by decide, refusal (noPort (by decide))⟩

end Reply
end StandIn
