import Mathlib.Data.List.Induction
import Mathlib.Data.Nat.Digits.Defs
import StandIn.Proofs.Text.Words
import StandIn.Text.Decimal

/-!
What a written integer is, said without reading it: a run of ASCII digits counts ten times what it
counts without its last digit, and that digit, and a run with a minus sign in front counts what the
run counts below zero. A text is read as an integer exactly if it is written in this way.
-/

set_option autoImplicit false

namespace StandIn.Text

/-- A run of at least one digit, with the number that it writes; leading zeros count for nothing. -/
inductive Digits : List Char → Nat → Prop where
  | single {digit : Char} (isDigit : digit.isDigit = true) : Digits [digit] (digit.toNat - '0'.toNat)
  | append {digits : List Char} {number : Nat} {digit : Char} (more : Digits digits number)
      (isDigit : digit.isDigit = true) :
      Digits (digits ++ [digit]) (10 * number + (digit.toNat - '0'.toNat))

/-- A run of digits after at most one sign, with the integer that it writes. -/
inductive Denotes : List Char → Int → Prop where
  | unsigned {digits : List Char} {number : Nat} (written : Digits digits number) :
      Denotes digits number
  | plus {digits : List Char} {number : Nat} (written : Digits digits number) :
      Denotes ('+' :: digits) number
  | minus {digits : List Char} {number : Nat} (written : Digits digits number) :
      Denotes ('-' :: digits) (-number)

theorem Digits.read {digits : List Char} {number : Nat} (written : Digits digits number) :
    isDigits digits = true ∧ Nat.ofDigitChars 10 digits 0 = number := by
  induction written with
  | single isDigit => simp [isDigits, isDigit, Nat.ofDigitChars_cons]
  | append more isDigit induction =>
      obtain ⟨allDigits, reads⟩ := induction
      simp only [isDigits, Bool.and_eq_true] at allDigits
      refine ⟨?_, ?_⟩
      · simp [isDigits, allDigits.2, isDigit]
      · rw [Nat.ofDigitChars_append, reads, Nat.ofDigitChars_cons, Nat.ofDigitChars_nil]

theorem digits_of_is_digits {digits : List Char} (allDigits : isDigits digits = true) :
    Digits digits (Nat.ofDigitChars 10 digits 0) := by
  induction digits using List.reverseRecOn with
  | nil => cases allDigits
  | append_singleton digits digit induction =>
      have last : digit.isDigit = true := by
        simp only [isDigits, List.all_append, Bool.and_eq_true, List.all_cons] at allDigits
        exact allDigits.2.2.1
      rw [Nat.ofDigitChars_append, Nat.ofDigitChars_cons, Nat.ofDigitChars_nil]
      cases digits with
      | nil => simpa using Digits.single last
      | cons first rest =>
          refine .append (induction ?_) last
          simp only [isDigits, List.all_append, Bool.and_eq_true] at allDigits
          simp [isDigits, allDigits.2.1]

theorem split_sign_is_digits {digits : List Char} (allDigits : isDigits digits = true) :
    splitSign digits = (false, digits) := by
  unfold splitSign
  split
  · simp [isDigits] at allDigits
  · simp [isDigits] at allDigits
  · rfl

theorem split_sign_cases (text : List Char) :
    text = '-' :: (splitSign text).2 ∧ (splitSign text).1 = true ∨
      text = '+' :: (splitSign text).2 ∧ (splitSign text).1 = false ∨
        text = (splitSign text).2 ∧ (splitSign text).1 = false := by
  unfold splitSign
  split
  · exact .inl ⟨rfl, rfl⟩
  · exact .inr (.inl ⟨rfl, rfl⟩)
  · exact .inr (.inr ⟨rfl, rfl⟩)

theorem integer_eq_some_iff {text : String} {value : Int} :
    integer? text = some value ↔ Denotes text.toList value := by
  constructor
  · intro read
    have signs := split_sign_cases text.toList
    simp only [integer?] at read
    generalize splitSign text.toList = taken at read signs
    obtain ⟨negative, digits⟩ := taken
    split at read
    · next allDigits =>
      have written := digits_of_is_digits allDigits
      cases read
      rcases signs with ⟨shape, sign⟩ | ⟨shape, sign⟩ | ⟨shape, sign⟩
      · cases sign
        rw [shape]
        exact .minus written
      · cases sign
        rw [shape]
        exact .plus written
      · cases sign
        rw [shape]
        exact .unsigned written
    · cases read
  · intro denotes
    generalize written : text.toList = characters at denotes
    cases denotes with
    | unsigned digits =>
        obtain ⟨allDigits, reads⟩ := digits.read
        simp only [integer?, written, split_sign_is_digits allDigits, allDigits, reads]
        rfl
    | plus digits =>
        obtain ⟨allDigits, reads⟩ := digits.read
        simp only [integer?, written, splitSign, allDigits, reads]
        rfl
    | minus digits =>
        obtain ⟨allDigits, reads⟩ := digits.read
        simp only [integer?, written, splitSign, allDigits, reads]
        rfl

/-! ## Digits are no blanks -/

theorem digit_range {digit : Char} (isDigit : digit.isDigit = true) :
    0x30 ≤ digit.toNat ∧ digit.toNat ≤ 0x39 := by
  simpa [Char.isDigit, UInt32.le_iff_toNat_le] using isDigit

theorem digit_solid {digit : Char} (isDigit : digit.isDigit = true) : isBlank digit = false := by
  have range := digit_range isDigit
  simp [isBlank]
  omega

theorem number_is_word (number : Nat) : IsWord (Nat.toDigits 10 number) where
  filled := Nat.toDigits_ne_nil
  solid := fun _ member => digit_solid (Nat.isDigit_of_mem_toDigits (by decide) (by decide) member)

end StandIn.Text
