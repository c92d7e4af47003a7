import Mathlib.Data.List.Infix
import StandIn.Text.Utf8

/-!
Bytes that spell characters, and what a lenient reading makes of them when they break off. Every
character is spelled by its bytes, whole spellings are read one after the other, and a spelling that
has begun and breaks off is one invalid part.
-/

set_option autoImplicit false

namespace StandIn.Text

/-- The bytes complete a character that has begun. -/
inductive Completes : Pending → List UInt8 → Char → Prop where
  | last {pending : Pending} {byte : UInt8} (one : pending.missing = 1)
      (lower : pending.least ≤ byte.toNat) (upper : byte.toNat ≤ pending.greatest) :
      Completes pending [byte] (Char.ofNat (pending.bits * 64 + byte.toNat % 64))
  | further {pending : Pending} {byte : UInt8} {rest : List UInt8} {character : Char} {missing : Nat}
      (more : pending.missing = missing + 2) (lower : pending.least ≤ byte.toNat)
      (upper : byte.toNat ≤ pending.greatest)
      (completes :
        Completes ⟨missing + 1, pending.bits * 64 + byte.toNat % 64, 0x80, 0xBF⟩ rest character) :
      Completes pending (byte :: rest) character

inductive Spells : List UInt8 → Char → Prop where
  | whole {byte : UInt8} {character : Char} (whole : opening byte.toNat = .whole character) :
      Spells [byte] character
  | begins {byte : UInt8} {rest : List UInt8} {character : Char} {pending : Pending}
      (begins : opening byte.toNat = .begins pending) (completes : Completes pending rest character) :
      Spells (byte :: rest) character

theorem Completes.read {pending : Pending} {bytes : List UInt8} {character : Char}
    (completes : Completes pending bytes character) (rest : List UInt8) :
    decodeFrom (some pending) (bytes ++ rest) = some character :: decodeFrom none rest := by
  induction completes with
  | last one lower upper => simp [decodeFrom, lower, upper, one]
  | further more lower upper _ induction =>
      simpa [decodeFrom, lower, upper, more] using induction

theorem Spells.read {bytes : List UInt8} {character : Char} (spells : Spells bytes character)
    (rest : List UInt8) : decodeFrom none (bytes ++ rest) = some character :: decodeFrom none rest := by
  cases spells with
  | whole whole => simp [decodeFrom, whole]
  | begins begins completes => simpa [decodeFrom, begins] using completes.read rest

theorem Completes.cut {pending : Pending} {first second : List UInt8} {character : Char}
    (completes : Completes pending (first ++ second) character) (missing : second ≠ []) :
    decodeFrom (some pending) first = [none] := by
  generalize split : first ++ second = bytes at completes
  induction completes generalizing first with
  | last one lower upper =>
      cases first with
      | nil => rfl
      | cons byte rest => simp [missing] at split
  | further more lower upper _ induction =>
      cases first with
      | nil => rfl
      | cons byte rest =>
          obtain ⟨rfl, behind⟩ := List.cons.inj split
          simpa [decodeFrom, lower, upper, more] using induction behind

theorem Spells.cut {first second : List UInt8} {character : Char}
    (spells : Spells (first ++ second) character) (begun : first ≠ []) (missing : second ≠ []) :
    decodeFrom none first = [none] := by
  generalize split : first ++ second = bytes at spells
  obtain ⟨byte, rest, rfl⟩ := List.exists_cons_of_ne_nil begun
  cases spells with
  | whole whole => simp [missing] at split
  | begins begins completes =>
      obtain ⟨rfl, rfl⟩ := List.cons.inj split
      simpa [decodeFrom, begins] using completes.cut missing

/-! ## The bytes of a character -/

theorem to_nat_of_nat {byte : Nat} (small : byte < 256) : (UInt8.ofNat byte).toNat = byte := by
  rw [UInt8.toNat_ofNat']
  omega

/-- A first byte that says how many follow, and lets the second byte be this one. -/
structure Leads (byte following bits second : Nat) : Prop where
  found : ∃ least greatest, lead byte = some ⟨following, bits, least, greatest⟩ ∧
    least ≤ second ∧ second ≤ greatest
  small : byte < 256
  long : 0x80 ≤ byte

theorem leads_two {number : Nat} (lower : 0x80 ≤ number) (upper : number < 0x800) :
    Leads (number / 64 % 32 + 192) 1 (number / 64) (number % 64 + 128) where
  found := by
    have range : 0xC2 ≤ number / 64 % 32 + 192 ∧ number / 64 % 32 + 192 ≤ 0xDF := by omega
    have bits : number / 64 % 32 + 192 - 0xC0 = number / 64 := by omega
    refine ⟨0x80, 0xBF, ?_, by omega, by omega⟩
    simp only [lead, if_pos range, bits]
  small := by omega
  long := by omega

theorem leads_three {number : Nat} (lower : 0x800 ≤ number) (upper : number < 0x10000)
    (valid : number < 0xD800 ∨ 0xDFFF < number) :
    Leads (number / 4096 % 16 + 224) 2 (number / 4096) (number / 64 % 64 + 128) where
  found := by
    unfold lead
    split_ifs
    · omega
    · exact ⟨0xA0, 0xBF, by simp; omega, by omega, by omega⟩
    · exact ⟨0x80, 0x9F, by simp; omega, by omega, by omega⟩
    · exact ⟨0x80, 0xBF, by simp; omega, by omega, by omega⟩
    all_goals omega
  small := by omega
  long := by omega

theorem leads_four {number : Nat} (lower : 0x10000 ≤ number) (upper : number < 0x110000) :
    Leads (number / 262144 % 8 + 240) 3 (number / 262144) (number / 4096 % 64 + 128) where
  found := by
    unfold lead
    split_ifs
    · omega
    · omega
    · omega
    · omega
    · exact ⟨0x90, 0xBF, by simp; omega, by omega, by omega⟩
    · exact ⟨0x80, 0xBF, by simp; omega, by omega, by omega⟩
    · exact ⟨0x80, 0x8F, by simp; omega, by omega, by omega⟩
    · omega
  small := by omega
  long := by omega

theorem Leads.spells {byte following bits second : Nat} {rest : List UInt8} {character : Char}
    (leads : Leads byte following bits second)
    (completes : ∀ least greatest, least ≤ second → second ≤ greatest →
      Completes ⟨following, bits, least, greatest⟩ rest character) :
    Spells (UInt8.ofNat byte :: rest) character := by
  obtain ⟨least, greatest, found, lower, upper⟩ := leads.found
  refine .begins ?_ (completes least greatest lower upper)
  have long : ¬ byte < 0x80 := Nat.not_lt.mpr leads.long
  simp only [opening, to_nat_of_nat leads.small, if_neg long, found]

/-- A byte that continues a character carries six of its bits. -/
theorem completes_last {bits least greatest byte number : Nat} (small : byte < 256)
    (lower : least ≤ byte) (upper : byte ≤ greatest) (same : bits * 64 + byte % 64 = number) :
    Completes ⟨1, bits, least, greatest⟩ [UInt8.ofNat byte] (Char.ofNat number) := by
  have value := to_nat_of_nat small
  have last : Completes ⟨1, bits, least, greatest⟩ [UInt8.ofNat byte]
      (Char.ofNat (bits * 64 + (UInt8.ofNat byte).toNat % 64)) :=
    .last rfl (by rwa [value]) (by rwa [value])
  simpa only [value, same] using last

theorem completes_further {missing bits least greatest byte : Nat} (next : Nat) {rest : List UInt8}
    {character : Char} (small : byte < 256) (lower : least ≤ byte) (upper : byte ≤ greatest)
    (same : bits * 64 + byte % 64 = next)
    (completes : Completes ⟨missing + 1, next, 0x80, 0xBF⟩ rest character) :
    Completes ⟨missing + 2, bits, least, greatest⟩ (UInt8.ofNat byte :: rest) character := by
  have value := to_nat_of_nat small
  refine .further rfl (by rwa [value]) (by rwa [value]) ?_
  simpa only [value, same] using completes

theorem spells_encoded (character : Char) :
    Spells (String.utf8EncodeChar character) character := by
  have valid : character.toNat < 0xD800 ∨ 0xDFFF < character.toNat ∧ character.toNat < 0x110000 :=
    character.valid
  have same : Char.ofNat character.toNat = character := Char.ofNat_toNat character
  have code : character.val.toNat = character.toNat := rfl
  unfold String.utf8EncodeChar
  simp only [code]
  generalize character.toNat = number at valid same
  rw [← same]
  split_ifs with one two three
  · refine .whole ?_
    have small : number < 0x80 := by omega
    simp only [opening, to_nat_of_nat (show number < 256 by omega), if_pos small]
  · refine (leads_two (by omega) (by omega)).spells fun least greatest lower upper => ?_
    exact completes_last (by omega) lower upper (by omega)
  · refine (leads_three (by omega) (by omega) (by omega)).spells fun least greatest lower upper => ?_
    refine completes_further (number / 64) (by omega) lower upper (by omega) ?_
    exact completes_last (by omega) (by omega) (by omega) (by omega)
  · refine (leads_four (by omega) (by omega)).spells fun least greatest lower upper => ?_
    refine completes_further (number / 4096) (by omega) lower upper (by omega) ?_
    refine completes_further (number / 64) (by omega) (by omega) (by omega) (by omega) ?_
    exact completes_last (by omega) (by omega) (by omega) (by omega)

/-! ## Texts that are cut -/

def encoded (text : List Char) : List UInt8 :=
  text.flatMap String.utf8EncodeChar

theorem encoded_cons (character : Char) (rest : List Char) :
    encoded (character :: rest) = String.utf8EncodeChar character ++ encoded rest :=
  List.flatMap_cons

theorem encoded_length_cons (character : Char) (rest : List Char) :
    (encoded (character :: rest)).length = character.utf8Size + (encoded rest).length := by
  rw [encoded_cons, List.length_append, String.length_utf8EncodeChar]

theorem bytes_of_eq (text : String) : bytesOf text = encoded text.toList := by
  have same := String.toByteArray_ofList (l := text.toList)
  rw [String.ofList_toList] at same
  rw [bytesOf, String.toUTF8_eq_toByteArray, same, List.utf8Encode, List.data_toByteArray,
    encoded]

theorem decode_encoded (text : List Char) : decodeFrom none (encoded text) = text.map some := by
  induction text with
  | nil => rfl
  | cons character rest induction =>
      rw [encoded_cons, (spells_encoded character).read, induction, List.map_cons]

/-- The characters from the beginning that fit into so many bytes as a whole. -/
def fitting (capacity : Nat) : List Char → List Char
  | [] => []
  | character :: rest =>
    if character.utf8Size ≤ capacity then
      character :: fitting (capacity - character.utf8Size) rest
    else []

theorem fitting_prefix (capacity : Nat) (text : List Char) : fitting capacity text <+: text := by
  induction text generalizing capacity with
  | nil => exact List.nil_prefix
  | cons character rest induction =>
      rw [fitting]
      split
      · exact (List.prefix_cons_inj character).mpr (induction _)
      · exact List.nil_prefix

theorem fitting_bounded (capacity : Nat) (text : List Char) :
    (encoded (fitting capacity text)).length ≤ capacity := by
  induction text generalizing capacity with
  | nil => simp [fitting, encoded]
  | cons character rest induction =>
      rw [fitting]
      split
      · next fits =>
        have later := induction (capacity - character.utf8Size)
        rw [encoded_length_cons]
        omega
      · simp [encoded]

theorem fitting_longest {capacity : Nat} {text other : List Char} (beginning : other <+: text)
    (bounded : (encoded other).length ≤ capacity) : other <+: fitting capacity text := by
  induction text generalizing capacity other with
  | nil =>
      rw [List.prefix_nil.mp beginning]
      exact List.nil_prefix
  | cons character rest induction =>
      cases other with
      | nil => exact List.nil_prefix
      | cons first others =>
          obtain ⟨rfl, behind⟩ := List.cons_prefix_cons.mp beginning
          rw [encoded_length_cons] at bounded
          rw [fitting, if_pos (by omega)]
          exact (List.prefix_cons_inj first).mpr (induction behind (by omega))

/-- A reading that was cut has the characters that fit, and one invalid part if the cut is inside
the next one. -/
theorem decode_taken (capacity : Nat) (text : List Char) :
    decodeFrom none ((encoded text).take capacity) =
      (fitting capacity text).map some ++
        if (encoded (fitting capacity text)).length = min capacity (encoded text).length then []
        else [none] := by
  induction text generalizing capacity with
  | nil => simp [encoded, fitting, decodeFrom]
  | cons character rest induction =>
      have size := String.length_utf8EncodeChar character
      rw [fitting]
      by_cases fits : character.utf8Size ≤ capacity
      · rw [if_pos fits, encoded_length_cons, encoded_length_cons, encoded_cons, List.take_append,
          List.take_of_length_le (by omega), (spells_encoded character).read, size, induction]
        have same : character.utf8Size +
            (encoded (fitting (capacity - character.utf8Size) rest)).length =
              min capacity (character.utf8Size + (encoded rest).length) ↔
            (encoded (fitting (capacity - character.utf8Size) rest)).length =
              min (capacity - character.utf8Size) (encoded rest).length := by omega
        simp only [same, List.map_cons, List.cons_append]
      · rw [if_neg fits, encoded_cons, List.take_append_of_le_length (by omega)]
        by_cases room : capacity = 0
        · simp [room, decodeFrom, encoded]
        · have positive : 0 < character.utf8Size := Char.utf8Size_pos character
          have cut : decodeFrom none ((String.utf8EncodeChar character).take capacity) = [none] := by
            have spells := spells_encoded character
            rw [← List.take_append_drop capacity (String.utf8EncodeChar character)] at spells
            apply spells.cut
            · simp [room]
            · simp [size]
              omega
          have inside : ¬ (encoded []).length =
              min capacity (String.utf8EncodeChar character ++ encoded rest).length := by
            simp [encoded, size]
            omega
          rw [cut, if_neg inside]
          rfl

/-- The longest beginning of a text that takes no more than so many bytes. -/
structure LongestFit (text : String) (capacity : Nat) (kept : String) : Prop where
  beginning : ∃ rest, text = kept ++ rest
  bounded : (bytesOf kept).length ≤ capacity
  longest : ∀ other rest, text = other ++ rest → (bytesOf other).length ≤ capacity →
    ∃ more, kept = other ++ more

theorem longest_fit_fitting (capacity : Nat) (text : String) :
    LongestFit text capacity (String.ofList (fitting capacity text.toList)) where
  beginning := by
    obtain ⟨rest, split⟩ := fitting_prefix capacity text.toList
    refine ⟨String.ofList rest, ?_⟩
    rw [← String.ofList_append, split, String.ofList_toList]
  bounded := by
    rw [bytes_of_eq, String.toList_ofList]
    exact fitting_bounded capacity text.toList
  longest := by
    intro other rest split bounded
    rw [bytes_of_eq] at bounded
    have beginning : other.toList <+: text.toList := ⟨rest.toList, by rw [split, String.toList_append]⟩
    obtain ⟨more, longer⟩ := fitting_longest beginning bounded
    refine ⟨String.ofList more, ?_⟩
    rw [← longer, String.ofList_append, String.ofList_toList]

/-- A text that was cut is read as its longest beginning that fits, with U+FFFD behind it if and only
if the cut is not where that beginning ends. -/
theorem decode_lossy_cut {capacity : Nat} {text : String} (cut : capacity < (bytesOf text).length) :
    ∃ kept, LongestFit text capacity kept ∧
      decodeLossy ((bytesOf text).take capacity) =
        kept ++ if (bytesOf kept).length = capacity then "" else String.singleton replacement := by
  refine ⟨_, longest_fit_fitting capacity text, ?_⟩
  rw [bytes_of_eq] at cut ⊢
  have all : min capacity (encoded text.toList).length = capacity := by omega
  have shown : (fun character : Option Char => character.getD replacement) ∘ some = id := rfl
  rw [decodeLossy, decode_taken, all, bytes_of_eq, String.toList_ofList]
  split <;> simp [String.ofList_append, shown]

/-- Nothing is lost of a text that has room. -/
theorem decode_lossy_bytes (text : String) : decodeLossy (bytesOf text) = text := by
  have shown : (fun character : Option Char => character.getD replacement) ∘ some = id := rfl
  simp [decodeLossy, bytes_of_eq, decode_encoded, shown]

end StandIn.Text
