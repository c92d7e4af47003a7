import Mathlib.Data.Nat.Digits.Defs
import StandIn.Proofs.Reply.Ports
import StandIn.Proofs.Text.Utf8
import StandIn.Proofs.Text.Words

/-!
The answer with which a peer announces its two ports. It is short whatever the ports are, and it is
understood as just these.
-/

set_option autoImplicit false

namespace StandIn

namespace Text

theorem encoded_ascii {text : List Char} (ascii : ∀ character ∈ text, character.toNat < 0x80) :
    (encoded text).length = text.length := by
  induction text with
  | nil => rfl
  | cons character rest induction =>
      have small : character.toNat ≤ 127 := Nat.le_of_lt_succ (ascii character List.mem_cons_self)
      have single : (String.utf8EncodeChar character).length = 1 := by
        simp [String.utf8EncodeChar, small]
      rw [encoded_cons, List.length_append, single,
        induction fun other member => ascii other (List.mem_cons_of_mem character member),
        List.length_cons]
      omega

end Text

namespace Reply

/-- The answer of a peer that offers a session. -/
def announcement (statePort heartbeatPort : Port) : String :=
  "StatePort " ++ Text.ofNat statePort.toNat ++ " HeartbeatPort " ++
    Text.ofNat heartbeatPort.toNat ++ "\r\n\r\n"

variable (statePort heartbeatPort : Port)

theorem announcement_to_list :
    (announcement statePort heartbeatPort).toList =
      "StatePort".toList ++ ' ' :: (Nat.toDigits 10 statePort.toNat ++ ' ' ::
        ("HeartbeatPort".toList ++ ' ' :: (Nat.toDigits 10 heartbeatPort.toNat ++
          '\r' :: ['\n', '\r', '\n']))) := by
  simp [announcement, Text.ofNat]

theorem announcement_words :
    Text.words (announcement statePort heartbeatPort) =
      ["StatePort", Text.ofNat statePort.toNat, "HeartbeatPort",
        Text.ofNat heartbeatPort.toNat] := by
  have stateKey : Text.IsWord "StatePort".toList := ⟨by simp, by simp [Text.isBlank]⟩
  have heartbeatKey : Text.IsWord "HeartbeatPort".toList := ⟨by simp, by simp [Text.isBlank]⟩
  rw [Text.words, announcement_to_list, Text.split_words_cons stateKey (by decide),
    Text.split_words_cons (Text.number_is_word _) (by decide),
    Text.split_words_cons heartbeatKey (by decide),
    Text.split_words_cons (Text.number_is_word _) (by decide)]
  rfl

theorem number_ne_key (number : Nat) : Text.ofNat number ≠ "HeartbeatPort" := by
  intro same
  have read := Text.integer_of_nat number
  have unread : Text.integer? "HeartbeatPort" = none := by decide
  rw [same, unread] at read
  cases read

theorem port_number_of_port (port : Port) :
    portNumber (Text.ofNat port.toNat) = .ok (port.toNat : Int) := by
  have isPort : Session.IsPort port.toNat := by
    have small : port.toNat < 65536 := port.toNat_lt
    constructor <;> omega
  have exact := clamp_port isPort
  simp only [portNumber, Text.integer_of_nat, exact]

theorem of_text_announcement :
    ofText (announcement statePort heartbeatPort) =
      .start (statePort.toNat : Int) (heartbeatPort.toNat : Int) := by
  have other : Text.ofNat statePort.toNat ≠ "HeartbeatPort" := number_ne_key _
  rw [ofText, announcement_words, ofWords]
  simp [valueAfter, other, ofPortWords, port_number_of_port]

theorem open_session_announcement (endpoint : Endpoint) :
    Tcp.openSession endpoint (ofText (announcement statePort heartbeatPort)) =
      .ok ⟨endpoint, statePort, heartbeatPort⟩ := by
  have isPort : ∀ port : Port, Session.IsPort port.toNat := by
    intro port
    have small : port.toNat < 65536 := port.toNat_lt
    constructor <;> omega
  rw [of_text_announcement, Tcp.openSession,
    Session.of_ports_ok (isPort statePort) (isPort heartbeatPort), Session.of_nat_port rfl,
    Session.of_nat_port rfl]

/-- There are 29 characters around the two numbers, and a port has five digits at most. -/
theorem announcement_short :
    (Text.bytesOf (announcement statePort heartbeatPort)).length < Tcp.startCapacity := by
  have digits : ∀ port : Port, (Nat.toDigits 10 port.toNat).length ≤ 5 := by
    intro port
    have small : port.toNat < 65536 := port.toNat_lt
    exact Nat.toDigits_length 10 port.toNat 5 (by decide) (by omega)
  have ascii : ∀ character ∈ (announcement statePort heartbeatPort).toList,
      character.toNat < 0x80 := by
    have number : ∀ port : Port, ∀ character ∈ Nat.toDigits 10 port.toNat,
        character.toNat < 0x80 := by
      intro port character member
      have range := Text.digit_range (Nat.isDigit_of_mem_toDigits (by decide) (by decide) member)
      omega
    have stateKey : ∀ character ∈ "StatePort".toList, character.toNat < 0x80 := by simp
    have heartbeatKey : ∀ character ∈ "HeartbeatPort".toList, character.toNat < 0x80 := by simp
    intro character member
    simp only [announcement_to_list, List.mem_append, List.mem_cons] at member
    rcases member with key | rfl | digit | rfl | key | rfl | digit | rfl | rfl | rfl | rfl | none
    · exact stateKey character key
    · decide
    · exact number _ character digit
    · decide
    · exact heartbeatKey character key
    · decide
    · exact number _ character digit
    · decide
    · decide
    · decide
    · decide
    · cases none
  have state := digits statePort
  have heartbeat := digits heartbeatPort
  rw [Text.bytes_of_eq, Text.encoded_ascii ascii, announcement_to_list, Tcp.startCapacity]
  simp
  omega

end Reply
end StandIn
