import StandIn.Text.Blank

/-!
The words of a text have characters, and none of these is blank. A blank splits a text into words
wherever it stands, so how many blanks there are between words, and which, does not matter.
-/

set_option autoImplicit false

namespace StandIn.Text

structure IsWord (word : List Char) : Prop where
  filled : word ≠ []
  solid : ∀ character ∈ word, isBlank character = false

theorem is_word_single {character : Char} (solid : isBlank character = false) :
    IsWord [character] where
  filled := List.cons_ne_nil character []
  solid other member := by
    rw [List.mem_singleton.mp member]
    exact solid

theorem IsWord.cons {character : Char} {word : List Char} (isWord : IsWord word)
    (solid : isBlank character = false) : IsWord (character :: word) where
  filled := List.cons_ne_nil character word
  solid other member := by
    rcases List.mem_cons.mp member with rfl | later
    · exact solid
    · exact isWord.solid other later

theorem prepend_words {character : Char} {pieces : List (List Char)}
    (solid : isBlank character = false) (isWords : ∀ piece ∈ pieces, IsWord piece) :
    ∀ piece ∈ prepend character pieces, IsWord piece := by
  intro piece member
  cases pieces with
  | nil =>
      rw [List.mem_singleton.mp member]
      exact is_word_single solid
  | cons first others =>
      rcases List.mem_cons.mp member with rfl | later
      · exact (isWords first List.mem_cons_self).cons solid
      · exact isWords piece (List.mem_cons_of_mem first later)

theorem split_words (text : List Char) : ∀ word ∈ splitWords text, IsWord word := by
  induction text with
  | nil =>
      intro word member
      cases member
  | cons character rest induction =>
      unfold splitWords
      cases solid : isBlank character with
      | true => exact induction
      | false =>
          rw [if_neg Bool.false_ne_true]
          split
          · exact prepend_words solid induction
          · intro word member
            rcases List.mem_cons.mp member with rfl | later
            · exact is_word_single solid
            · exact induction word later

theorem words_are_words (text : String) : ∀ word ∈ words text, IsWord word.toList := by
  intro word member
  obtain ⟨piece, found, rfl⟩ := List.mem_map.mp member
  rw [String.toList_ofList]
  exact split_words text.toList piece found

/-! ## Blanks between words -/

theorem prepend_append (character : Char) {first : List (List Char)} (filled : first ≠ [])
    (second : List (List Char)) :
    prepend character (first ++ second) = prepend character first ++ second := by
  cases first with
  | nil => exact absurd rfl filled
  | cons piece others => rfl

theorem starts_word_filled {text : List Char} (starts : startsWord text = true) :
    splitWords text ≠ [] := by
  cases text with
  | nil => simp [startsWord] at starts
  | cons character rest =>
      have solid : isBlank character = false := by simpa [startsWord] using starts
      unfold splitWords
      rw [solid, if_neg Bool.false_ne_true]
      split
      · cases splitWords rest <;> simp [prepend]
      · simp

/-- All that is said of blanks below follows from this one equation. -/
theorem split_words_blank {blank : Char} (isBlank : isBlank blank = true)
    (before after : List Char) :
    splitWords (before ++ blank :: after) = splitWords before ++ splitWords after := by
  have skipped : splitWords (blank :: after) = splitWords after := by simp [splitWords, isBlank]
  induction before with
  | nil => simpa [splitWords] using skipped
  | cons character rest induction =>
      by_cases white : Text.isBlank character = true
      · simpa [splitWords, white] using induction
      · -- Whether the word goes on is told by the next character, which may be the blank itself.
        have sameStart : startsWord (rest ++ blank :: after) = startsWord rest := by
          cases rest <;> simp [startsWord, isBlank]
        rw [List.cons_append, splitWords, splitWords, if_neg white, if_neg white, sameStart,
          induction]
        by_cases starts : startsWord rest = true
        · rw [if_pos starts, if_pos starts, prepend_append _ (starts_word_filled starts)]
        · rw [if_neg starts, if_neg starts, List.cons_append]

theorem split_words_blanks {gap : List Char} (filled : gap ≠ [])
    (blanks : ∀ character ∈ gap, isBlank character = true) (before after : List Char) :
    splitWords (before ++ gap ++ after) = splitWords before ++ splitWords after := by
  induction gap generalizing before with
  | nil => exact absurd rfl filled
  | cons blank rest induction =>
      have here := blanks blank List.mem_cons_self
      cases rest with
      | nil => simpa using split_words_blank here before after
      | cons next others =>
          have later := induction (by simp)
            (fun character member => blanks character (by simp [member])) (before ++ [blank])
          rw [split_words_blank here before []] at later
          simpa [splitWords] using later

theorem split_words_word {word : List Char} (isWord : IsWord word) : splitWords word = [word] := by
  induction word with
  | nil => exact absurd rfl isWord.filled
  | cons character rest induction =>
      have solid := isWord.solid character List.mem_cons_self
      cases rest with
      | nil => simp [splitWords, solid, startsWord]
      | cons next others =>
          have later : IsWord (next :: others) :=
            ⟨List.cons_ne_nil next others, fun other member => isWord.solid other (by simp [member])⟩
          have starts : startsWord (next :: others) = true := by
            simp [startsWord, later.solid next List.mem_cons_self]
          rw [splitWords, solid, if_neg Bool.false_ne_true, if_pos starts, induction later]
          rfl

/-- A word, then a blank. -/
theorem split_words_cons {word : List Char} (isWord : IsWord word) {blank : Char}
    (isBlank : isBlank blank = true) (rest : List Char) :
    splitWords (word ++ blank :: rest) = word :: splitWords rest := by
  rw [split_words_blank isBlank, split_words_word isWord, List.singleton_append]

theorem split_words_eq_nil_iff (text : List Char) :
    splitWords text = [] ↔ text.all isBlank = true := by
  induction text with
  | nil => simp [splitWords]
  | cons character rest induction =>
      by_cases white : isBlank character = true
      · simpa [splitWords, white] using induction
      · have filled : splitWords (character :: rest) ≠ [] :=
          starts_word_filled (by simpa [startsWord] using white)
        simp [filled, white]

theorem words_eq_nil_iff (text : String) : words text = [] ↔ allBlank text = true := by
  rw [words, List.map_eq_nil_iff, allBlank]
  exact split_words_eq_nil_iff text.toList

/-- Between words one run of blanks is as good as another. -/
theorem words_gap {gap other : String} (filled : gap ≠ "") (blanks : allBlank gap = true)
    (otherFilled : other ≠ "") (otherBlanks : allBlank other = true) (before after : String) :
    words (before ++ gap ++ after) = words (before ++ other ++ after) := by
  have spread : ∀ {run : String}, run ≠ "" → allBlank run = true →
      words (before ++ run ++ after) = words before ++ words after := by
    intro run runFilled runBlanks
    have characters : run.toList ≠ [] := by simpa using runFilled
    have white : ∀ character ∈ run.toList, isBlank character = true := by
      simpa [allBlank] using runBlanks
    simp only [words, String.toList_append, split_words_blanks characters white, List.map_append]
  rw [spread filled blanks, spread otherFilled otherBlanks]

theorem split_words_margin {left right : List Char}
    (leftBlanks : ∀ character ∈ left, isBlank character = true)
    (rightBlanks : ∀ character ∈ right, isBlank character = true) (text : List Char) :
    splitWords (left ++ text ++ right) = splitWords text := by
  have front : splitWords (left ++ text) = splitWords text := by
    induction left with
    | nil => rfl
    | cons blank rest induction =>
        have here := leftBlanks blank List.mem_cons_self
        rw [List.cons_append, splitWords, if_pos here]
        exact induction fun character member => leftBlanks character (by simp [member])
  by_cases filled : right = []
  · rw [filled, List.append_nil, front]
  · have spread := split_words_blanks filled rightBlanks (left ++ text) []
    simpa [splitWords, front] using spread

/-- Blanks around a text add no word. -/
theorem words_margin {left right : String} (leftBlanks : allBlank left = true)
    (rightBlanks : allBlank right = true) (text : String) :
    words (left ++ text ++ right) = words text := by
  have leftWhite : ∀ character ∈ left.toList, isBlank character = true := by
    simpa [allBlank] using leftBlanks
  have rightWhite : ∀ character ∈ right.toList, isBlank character = true := by
    simpa [allBlank] using rightBlanks
  simp only [words, String.toList_append, split_words_margin leftWhite rightWhite]

end StandIn.Text
