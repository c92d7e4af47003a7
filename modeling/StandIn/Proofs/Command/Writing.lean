import StandIn.Proofs.Command.Grammar
import StandIn.Proofs.Hello.Reading

/-!
The text of a command is a script line. It gives the order that it was made from, as long as the
order is one that a line can give: a device of two words, or a time of 64 bits with sign. What is
read off a line is always of this kind, so it can be written down and read again.
-/

set_option autoImplicit false

namespace StandIn

open Text (Denotes IsWord)

namespace Command

/-- What a script line can ask for. -/
def Writable : Command → Prop
  | .enable device => device.Plain
  | .disable device => device.Plain
  | .dieHorribly seconds => (seconds : Int) ≤ mostSeconds
  | .sleep seconds => (seconds : Int) ≤ mostSeconds

theorem words_seconds {verb : String} (isVerb : IsWord verb.toList) (seconds : Nat) :
    Text.words (verb ++ " " ++ Text.ofNat seconds) = [verb, Text.ofNat seconds] := by
  have blank : Text.isBlank ' ' = true := by decide
  have characters : (verb ++ " " ++ Text.ofNat seconds).toList =
      verb.toList ++ ' ' :: (Text.ofNat seconds).toList := by
    simp [String.toList_append]
  have number : IsWord (Text.ofNat seconds).toList := by
    simpa [Text.ofNat] using Text.number_is_word seconds
  rw [Text.words, characters, Text.split_words_cons isVerb blank, Text.split_words_word number]
  simp

theorem denotes_of_nat (seconds : Nat) : Denotes (Text.ofNat seconds).toList seconds := by
  apply Text.integer_eq_some_iff.mp
  exact Text.integer_of_nat seconds

theorem orders_text {command : Command} (writable : command.Writable) :
    Orders (Text.words command.text) command := by
  cases command with
  | enable device =>
      have verb : IsWord "enable".toList := ⟨by simp, by simp [Text.isBlank]⟩
      have written : (enable device).text = "enable" ++ " " ++ device.kind ++ " " ++ device.name := by
        simp [text, Device.text, String.append_assoc]
      rw [written, words_device verb writable.kind writable.name]
      exact .enable device.kind device.name
  | disable device =>
      have verb : IsWord "disable".toList := ⟨by simp, by simp [Text.isBlank]⟩
      have written : (disable device).text = "disable" ++ " " ++ device.kind ++ " " ++ device.name := by
        simp [text, Device.text, String.append_assoc]
      rw [written, words_device verb writable.kind writable.name]
      exact .disable device.kind device.name
  | dieHorribly seconds =>
      have verb : IsWord "dieHorribly".toList := ⟨by simp, by simp [Text.isBlank]⟩
      have written : (dieHorribly seconds).text = "dieHorribly" ++ " " ++ Text.ofNat seconds := by
        simp [text]
      rw [written, words_seconds verb]
      exact .dieHorribly _ seconds (denotes_of_nat seconds) writable
  | sleep seconds =>
      have verb : IsWord "sleep".toList := ⟨by simp, by simp [Text.isBlank]⟩
      have written : (sleep seconds).text = "sleep" ++ " " ++ Text.ofNat seconds := by
        simp [text]
      rw [written, words_seconds verb]
      exact .sleep _ seconds (denotes_of_nat seconds) writable

theorem Orders.writable {words : List String} {command : Command}
    (areWords : ∀ word ∈ words, IsWord word.toList) (orders : Orders words command) :
    command.Writable := by
  cases orders with
  | enable kind name => exact ⟨areWords kind (by simp), areWords name (by simp)⟩
  | disable kind name => exact ⟨areWords kind (by simp), areWords name (by simp)⟩
  | dieHorribly word value denotes fits => exact fits
  | sleep word value denotes fits => exact fits

theorem of_line_text {command : Command} (writable : command.Writable) (number : Nat) :
    ofLine number command.text = .ok (some command) := by
  apply of_line_some_iff.mpr
  exact orders_text writable

theorem of_line_writable {number : Nat} {line : String} {command : Command}
    (read : ofLine number line = .ok (some command)) : command.Writable := by
  apply Orders.writable (Text.words_are_words line)
  exact of_line_some_iff.mp read

end Command

/-- Commands written down one a line are a script of just these commands. -/
theorem Script.read_texts (number : Nat) {commands : List Command}
    (writable : ∀ command ∈ commands, command.Writable) :
    read number (commands.map Command.text) = ⟨commands, .ok ()⟩ := by
  induction commands generalizing number with
  | nil => rfl
  | cons command rest induction =>
      have here := Command.of_line_text (writable command List.mem_cons_self) number
      have later := induction (number + 1) fun other member => writable other (by simp [member])
      rw [List.map_cons, read_cons_some here, later]

end StandIn
