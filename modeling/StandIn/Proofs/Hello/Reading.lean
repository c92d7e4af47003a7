import StandIn.Hello
import StandIn.Proofs.Text.Words

/-!
Reading a Hello back. Nothing in a Hello is escaped, so it can be read back only if the devices in
it are plain: their kinds and names have characters and no blanks. Then the ends of its lines are
where they were put, and so is the empty line, which is the end of the whole.
-/

set_option autoImplicit false

namespace StandIn

open Text (IsWord)

structure Device.Plain (device : Device) : Prop where
  kind : IsWord device.kind.toList
  name : IsWord device.name.toList

namespace Hello

def Plain (hello : Hello) : Prop :=
  ∀ device ∈ hello.devices, device.Plain

/-! ## The reader -/

/-- The pieces of a text between its line ends. -/
def pieces : List Char → List (List Char)
  | [] => [[]]
  | '\r' :: '\n' :: rest => [] :: pieces rest
  | character :: rest => Text.prepend character (pieces rest)

def port? (line : List Char) : Option Port :=
  let number := Nat.ofDigitChars 10 line 0
  if Text.isDigits line ∧ number < 65536 then some (UInt16.ofNat number) else none

/-- A line with a single space is split there. -/
def device? (line : List Char) : Option Device :=
  let name := (line.dropWhile (· ≠ ' ')).tail
  if line.count ' ' = 1 then
    some ⟨String.ofList (line.takeWhile (· ≠ ' ')), String.ofList name⟩
  else none

/-- The first line is the port, and each further line up to the first empty one is a device. -/
def ofText? (text : String) : Option Hello :=
  match pieces text.toList with
  | [] => none
  | first :: others => do
    let listenPort ← port? first
    let devices ← (others.takeWhile (· ≠ [])).mapM device?
    return ⟨listenPort, devices⟩

/-! ## Pieces -/

theorem pieces_line_end (rest : List Char) : pieces (lineEnd ++ rest) = [] :: pieces rest := by
  simp [lineEnd, pieces]

theorem pieces_cons {character : Char} {rest : List Char}
    (inside : ¬ (character = '\r' ∧ rest.head? = some '\n')) :
    pieces (character :: rest) = Text.prepend character (pieces rest) := by
  rw [pieces.eq_def]
  split
  · next same => cases same
  · next same =>
    cases same
    exact absurd ⟨rfl, rfl⟩ inside
  · next same =>
    cases same
    rfl

theorem pieces_ne_nil (text : List Char) : pieces text ≠ [] := by
  fun_cases pieces text with
  | case1 => exact List.cons_ne_nil _ _
  | case2 rest => exact List.cons_ne_nil _ _
  | case3 character rest _ =>
      cases pieces rest <;> exact List.cons_ne_nil _ _

/-- A line end splits a text wherever it stands, since it cannot overlap with another one. -/
theorem pieces_append (before after : List Char) :
    pieces (before ++ lineEnd ++ after) = pieces before ++ pieces after := by
  induction before using pieces.induct with
  | case1 => exact pieces_line_end after
  | case2 rest induction =>
      have split := pieces_line_end (rest ++ lineEnd ++ after)
      have whole : lineEnd ++ (rest ++ lineEnd ++ after) =
          '\r' :: '\n' :: rest ++ lineEnd ++ after := rfl
      rw [← whole, split, induction, pieces]
      rfl
  | case3 character rest inside induction =>
      have here : ¬ (character = '\r' ∧ rest.head? = some '\n') := by
        rintro ⟨rfl, head⟩
        cases rest with
        | nil => cases head
        | cons second others =>
            cases head
            exact inside others rfl rfl
      have there : ¬ (character = '\r' ∧ (rest ++ lineEnd ++ after).head? = some '\n') := by
        rintro ⟨rfl, head⟩
        cases rest with
        -- What follows is the line end itself, which begins with a carriage return.
        | nil => cases head
        | cons second others => exact here ⟨rfl, head⟩
      rw [pieces_cons here, List.cons_append, List.cons_append, pieces_cons there, induction,
        Text.prepend_append _ (pieces_ne_nil rest)]

theorem pieces_unbroken {line : List Char} (unbroken : '\r' ∉ line) : pieces line = [line] := by
  induction line with
  | nil => rfl
  | cons character rest induction =>
      rw [List.mem_cons, not_or] at unbroken
      rw [pieces_cons fun inside => unbroken.1 inside.1.symm, induction unbroken.2]
      rfl

theorem pieces_lines {lines : List (List Char)} (unbroken : ∀ line ∈ lines, '\r' ∉ line)
    (rest : List Char) :
    pieces (lines.flatMap (· ++ lineEnd) ++ rest) = lines ++ pieces rest := by
  induction lines with
  | nil => rfl
  | cons line others induction =>
      have first := pieces_unbroken (unbroken line List.mem_cons_self)
      have later := induction fun other member => unbroken other (List.mem_cons_of_mem line member)
      rw [List.flatMap_cons, List.append_assoc, pieces_append, first, later]
      rfl

theorem eq_nil_of_pieces {text : List Char} (empty : pieces text = [[]]) : text = [] := by
  fun_cases pieces text with
  | case1 => rfl
  | case2 rest =>
      rw [pieces] at empty
      exact absurd (List.cons.inj empty).2 (pieces_ne_nil rest)
  | case3 character rest inside =>
      rw [pieces.eq_3 character rest inside] at empty
      cases found : pieces rest with
      | nil => exact absurd found (pieces_ne_nil rest)
      | cons piece others =>
          rw [found] at empty
          cases empty

/-! ## The lines of a Hello -/

def lines (hello : Hello) : List (List Char) :=
  Nat.toDigits 10 hello.listenPort.toNat :: hello.devices.map fun device => device.text.toList

theorem encode_lines (hello : Hello) :
    hello.encode = hello.lines.flatMap (· ++ lineEnd) ++ lineEnd := by
  simp only [encode, lines, List.flatMap_cons, List.flatMap_map]
  rfl

theorem text_to_list (device : Device) :
    device.text.toList = device.kind.toList ++ ' ' :: device.name.toList := by
  simp [Device.text]

theorem device_line_unbroken {device : Device} (plain : device.Plain) :
    '\r' ∉ device.text.toList := by
  intro member
  rw [text_to_list, List.mem_append, List.mem_cons] at member
  rcases member with inKind | space | inName
  · cases plain.kind.solid _ inKind
  · cases space
  · cases plain.name.solid _ inName

theorem lines_unbroken {hello : Hello} (plain : hello.Plain) :
    ∀ line ∈ hello.lines, '\r' ∉ line := by
  intro line member
  rcases List.mem_cons.mp member with rfl | later
  · intro inDigits
    cases Nat.isDigit_of_mem_toDigits (by decide) (by decide) inDigits
  · obtain ⟨device, listed, rfl⟩ := List.mem_map.mp later
    exact device_line_unbroken (plain device listed)

theorem lines_filled (hello : Hello) : ∀ line ∈ hello.lines, line ≠ [] := by
  intro line member
  rcases List.mem_cons.mp member with rfl | later
  · exact Nat.toDigits_ne_nil
  · obtain ⟨device, _, rfl⟩ := List.mem_map.mp later
    rw [text_to_list]
    simp

theorem pieces_encode {hello : Hello} (plain : hello.Plain) :
    pieces hello.encode = hello.lines ++ [[], []] := by
  rw [encode_lines, pieces_lines (lines_unbroken plain)]
  rfl

/-! ## The end of a Hello -/

theorem lines_end (hello : Hello) : ∃ front, hello.encode = front ++ lineEnd ++ lineEnd := by
  have filled : hello.lines ≠ [] := List.cons_ne_nil _ _
  refine ⟨hello.lines.dropLast.flatMap (· ++ lineEnd) ++ hello.lines.getLast filled, ?_⟩
  rw [encode_lines]
  conv => lhs; rw [← List.dropLast_concat_getLast filled]
  simp [List.flatMap_append]

/-- Of lines that are not empty only the first of two empty ones behind them can be empty and have
others behind it. -/
theorem empty_line_last {lines front others : List (List Char)} (filled : ∀ line ∈ lines, line ≠ [])
    (split : lines ++ [[], []] = front ++ [] :: others) (behind : others ≠ []) : others = [[]] := by
  rcases List.append_eq_append_iff.mp split with ⟨middle, _, last⟩ | ⟨middle, rfl, last⟩
  · match middle with
    | [] => exact (List.cons.inj last).2.symm
    | [_] => exact absurd (List.cons.inj (List.cons.inj last).2).2.symm behind
    | _ :: _ :: more =>
        have tooLong := congrArg List.length last
        simp at tooLong
  · match middle with
    | [] => exact (List.cons.inj last).2
    | line :: more =>
        obtain ⟨rfl, _⟩ := List.cons.inj last
        exact absurd rfl (filled [] (by simp))

/-- Two line ends on end are the end of the whole. -/
theorem end_is_last {hello : Hello} (plain : hello.Plain) {front rest : List Char}
    (split : hello.encode = front ++ lineEnd ++ (lineEnd ++ rest)) : rest = [] := by
  have found := congrArg pieces split
  rw [pieces_encode plain, pieces_append, pieces_line_end] at found
  exact eq_nil_of_pieces (empty_line_last hello.lines_filled found (pieces_ne_nil rest))

theorem line_ends_to_list : "\r\n\r\n".toList = lineEnd ++ lineEnd := by decide

theorem text_end (hello : Hello) : ∃ front, hello.text = front ++ "\r\n\r\n" := by
  obtain ⟨front, split⟩ := lines_end hello
  refine ⟨String.ofList front, String.toList_injective ?_⟩
  rw [text, String.toList_ofList, String.toList_append, String.toList_ofList, line_ends_to_list,
    split, List.append_assoc]

theorem text_end_is_last {hello : Hello} (plain : hello.Plain) {front rest : String}
    (split : hello.text = front ++ "\r\n\r\n" ++ rest) : rest = "" := by
  have found := congrArg String.toList split
  rw [text, String.toList_ofList, String.toList_append, String.toList_append, line_ends_to_list,
    ← List.append_assoc, List.append_assoc _ lineEnd] at found
  exact String.toList_injective (end_is_last plain found)

/-! ## Round trip -/

theorem port_read (port : Port) : port? (Nat.toDigits 10 port.toNat) = some port := by
  have small : port.toNat < 65536 := port.toNat_lt
  simp only [port?, Text.is_digits_to_digits, Nat.ofDigitChars_ten_toDigits, small, and_self,
    if_true, UInt16.ofNat_toNat]

theorem device_read {device : Device} (plain : device.Plain) :
    device? device.text.toList = some device := by
  have noSpace : ∀ {word : List Char}, IsWord word → ' ' ∉ word := by
    intro word isWord member
    cases isWord.solid ' ' member
  have inKind := noSpace plain.kind
  have inName := noSpace plain.name
  have kindPassed : ∀ character ∈ device.kind.toList, decide (character ≠ ' ') = true := by
    intro character member
    rw [decide_eq_true_eq]
    rintro rfl
    exact inKind member
  have single : device.text.toList.count ' ' = 1 := by
    rw [text_to_list, List.count_append, List.count_cons_self, List.count_eq_zero.mpr inKind,
      List.count_eq_zero.mpr inName]
  rw [device?, if_pos single, text_to_list, List.takeWhile_append_of_pos kindPassed,
    List.dropWhile_append_of_pos kindPassed]
  simp

theorem devices_read {devices : List Device} (plain : ∀ device ∈ devices, device.Plain) :
    (devices.map fun device => device.text.toList).mapM device? = some devices := by
  induction devices with
  | nil => rfl
  | cons device rest induction =>
      have first := device_read (plain device List.mem_cons_self)
      have others := induction fun other member => plain other (List.mem_cons_of_mem device member)
      rw [List.map_cons, List.mapM_cons, first, others]
      rfl

theorem read_text {hello : Hello} (plain : hello.Plain) : ofText? hello.text = some hello := by
  have filled : ∀ line ∈ hello.devices.map (fun device => device.text.toList),
      decide (line ≠ []) = true := by
    intro line member
    rw [decide_eq_true_eq]
    exact hello.lines_filled line (List.mem_cons_of_mem _ member)
  have split : pieces hello.text.toList = hello.lines ++ [[], []] := by
    rw [text, String.toList_ofList, pieces_encode plain]
  have others : (hello.devices.map (fun device : Device => device.text.toList) ++ [[], []]).takeWhile
      (· ≠ []) = hello.devices.map fun device => device.text.toList := by
    rw [List.takeWhile_append_of_pos filled]
    simp
  unfold ofText?
  simp only [split, lines, List.cons_append, others, port_read, devices_read plain]
  rfl

end Hello
end StandIn
