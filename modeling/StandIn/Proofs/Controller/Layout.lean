import StandIn.Proofs.Controller.Orders
import StandIn.Rehearsal

/-!
The layout of a script. Comments, blank lines, indentation and the spaces between words have no
effect beyond the numbers of the lines, and neither has the way in which lines end.
-/

set_option autoImplicit false

namespace StandIn

namespace Command

theorem is_order_of_words {line other : String} (comment : isComment line = isComment other)
    (words : Text.words line = Text.words other) : isOrder line = isOrder other := by
  have blank : Text.allBlank line = Text.allBlank other := by
    rw [Bool.eq_iff_iff, ← Text.words_eq_nil_iff, ← Text.words_eq_nil_iff, words]
  rw [isOrder, isOrder, comment, blank]

theorem of_line_of_words {line other : String} (comment : isComment line = isComment other)
    (words : Text.words line = Text.words other) (number : Nat) :
    ofLine number line = ofLine number other := by
  have same := is_order_of_words comment words
  by_cases order : isOrder line = true
  · rw [of_line_order order, of_line_order (same ▸ order), words]
  · have skipped : isOrder line = false := by simpa using order
    rw [of_line_skipped skipped, of_line_skipped (same ▸ skipped)]

/-- A line does not become a comment by a gap behind its beginning. -/
theorem is_comment_gap {gap newGap : String} (old : gap ≠ "" ∧ Text.allBlank gap = true)
    (new : newGap ≠ "" ∧ Text.allBlank newGap = true) (before after : String) :
    isComment (before ++ gap ++ after) = isComment (before ++ newGap ++ after) := by
  have blank : ∀ {run : String}, run ≠ "" → Text.allBlank run = true →
      ∃ first rest, run.toList = first :: rest ∧ first ≠ '#' := by
    intro run filled blanks
    cases characters : run.toList with
    | nil => exact absurd (String.toList_eq_nil_iff.mp characters) filled
    | cons first rest =>
        refine ⟨first, rest, rfl, ?_⟩
        rintro rfl
        simp [Text.allBlank, characters, Text.isBlank] at blanks
  obtain ⟨first, rest, gapCharacters, solid⟩ := blank old.1 old.2
  obtain ⟨newFirst, newRest, newCharacters, newSolid⟩ := blank new.1 new.2
  cases beginning : before.toList with
  | nil => simp [isComment, beginning, gapCharacters, newCharacters, solid, newSolid]
  | cons character others => simp [isComment, beginning]

end Command

/-- One layout of a script and another. A comment or a blank line may come or go anywhere, a line may
get other gaps between its words, and it may get other margins as long as these neither move a number
sign to its beginning nor one away from there. -/
inductive Relaid : List String → List String → Prop where
  | same (lines : List String) : Relaid lines lines
  | symm {first second : List String} (relaid : Relaid first second) : Relaid second first
  | trans {first second third : List String} (early : Relaid first second)
      (late : Relaid second third) : Relaid first third
  | skipped (earlier later : List String) (line : String)
      (skipped : Command.isComment line = true ∨ Text.allBlank line = true) :
      Relaid (earlier ++ later) (earlier ++ line :: later)
  | margins (earlier later : List String) (text left right newLeft newRight : String)
      (old : Text.allBlank left = true ∧ Text.allBlank right = true)
      (new : Text.allBlank newLeft = true ∧ Text.allBlank newRight = true)
      (comment : Command.isComment (left ++ text ++ right) =
        Command.isComment (newLeft ++ text ++ newRight)) :
      Relaid (earlier ++ (left ++ text ++ right) :: later)
        (earlier ++ (newLeft ++ text ++ newRight) :: later)
  | gap (earlier later : List String) (before after gap newGap : String)
      (old : gap ≠ "" ∧ Text.allBlank gap = true)
      (new : newGap ≠ "" ∧ Text.allBlank newGap = true) :
      Relaid (earlier ++ (before ++ gap ++ after) :: later)
        (earlier ++ (before ++ newGap ++ after) :: later)

namespace Script

theorem word_lists_replaced {line other : String}
    (comment : Command.isComment line = Command.isComment other)
    (words : Text.words line = Text.words other) (earlier later : List String) :
    wordLists (earlier ++ line :: later) = wordLists (earlier ++ other :: later) := by
  have single : wordLists [line] = wordLists [other] := by
    have same := Command.is_order_of_words comment words
    by_cases order : Command.isOrder line = true
    · simp [wordLists, order, same ▸ order, words]
    · simp [wordLists, order, same ▸ order]
  have spread : ∀ here : String, wordLists (earlier ++ here :: later) =
      wordLists earlier ++ (wordLists [here] ++ wordLists later) := by
    intro here
    rw [word_lists_append, ← List.singleton_append, word_lists_append]
  rw [spread, spread, single]

theorem relaid_word_lists {first second : List String} (relaid : Relaid first second) :
    wordLists first = wordLists second := by
  induction relaid with
  | same => rfl
  | symm _ induction => exact induction.symm
  | trans _ _ early late => exact early.trans late
  | skipped earlier later line skipped =>
      have none : Command.isOrder line = false := by
        rcases skipped with comment | blank
        · simp [Command.isOrder, comment]
        · simp [Command.isOrder, blank]
      rw [word_lists_append, word_lists_append]
      simp [wordLists, none]
  | margins earlier later text left right newLeft newRight old new comment =>
      apply word_lists_replaced comment
      rw [Text.words_margin old.1 old.2, Text.words_margin new.1 new.2]
  | gap earlier later before after gap newGap old new =>
      apply word_lists_replaced (Command.is_comment_gap old new before after)
      exact Text.words_gap old.1 old.2 new.1 new.2 before after

/-- With the same words two scripts have the same commands, and then the same fault but for its
number. -/
theorem read_same_words {first second : List String} (same : wordLists first = wordLists second) :
    (read 1 first = read 1 second ∧
      ∀ number reason, (read 1 first).ending ≠ .error (.scriptLine number reason)) ∨
    ∃ number other reason, (read 1 first).commands = (read 1 second).commands ∧
      (read 1 first).ending = .error (.scriptLine number reason) ∧
      (read 1 second).ending = .error (.scriptLine other reason) := by
  obtain ⟨shift, early⟩ := read_of_words 1 first
  obtain ⟨further, late⟩ := read_of_words 1 second
  rw [early, late, ← same]
  rcases (ofWords (wordLists first)).moved_cases with ⟨number, reason, ended⟩ | ⟨settled, other⟩
  · exact .inr ⟨number + shift, number + further, reason, rfl, ended shift, ended further⟩
  · rw [settled, settled]
    exact .inl ⟨rfl, other⟩

/-- Carriage returns before the line feeds do not change what a script asks for. -/
theorem read_returned (number : Nat) (text : String) :
    read number (Text.lines (Text.withReturns text)) = read number (Text.lines text) := by
  have readings : ∀ {lines others : List (List Char)} (place : Nat),
      List.Forall₂ Text.Returned lines others →
        Command.ofLines place (others.map String.ofList) =
          Command.ofLines place (lines.map String.ofList) := by
    intro lines others place returned
    induction returned generalizing place with
    | nil => rfl
    | @cons line other _ _ here _ induction =>
        have comment : Command.isComment (String.ofList other) =
            Command.isComment (String.ofList line) := by
          cases here with
          | same => rfl
          | added => cases line <;> simp [Command.isComment]
        have words : Text.words (String.ofList other) = Text.words (String.ofList line) := by
          simp [Text.words, here.words]
        simp only [List.map_cons, Command.ofLines, Command.of_line_of_words comment words, induction]
  have split := Text.split_lines_returned text.toList
  rw [read, read, Text.lines, Text.lines, Text.withReturns, String.toList_ofList, readings number split]

end Script

namespace Controller

variable {State : Type}

/-- Two scripts do the same on the wire and to the controller, and end with the same result; only
if both come to a line that is no command, each names it by its own number. -/
structure SameEffect (behaviour : Behaviour Wire.Answer State) (controller : Controller)
    (start : State) (first second : List String) : Prop where
  trace : (enact behaviour (run first) controller start).trace =
    (enact behaviour (run second) controller start).trace
  after : (enact behaviour (run first) controller start).value.2 =
    (enact behaviour (run second) controller start).value.2
  state : (enact behaviour (run first) controller start).state =
    (enact behaviour (run second) controller start).state
  result : ((enact behaviour (run first) controller start).value.1 =
      (enact behaviour (run second) controller start).value.1 ∧
        (∀ number reason, ¬ StuckAt behaviour first controller start number reason) ∧
        ∀ number reason, ¬ StuckAt behaviour second controller start number reason) ∨
    ∃ number other reason, StuckAt behaviour first controller start number reason ∧
      StuckAt behaviour second controller start other reason ∧
      (enact behaviour (run first) controller start).value.1 =
        .error (.scriptLine number reason) ∧
      (enact behaviour (run second) controller start).value.1 = .error (.scriptLine other reason)

variable {behaviour : Behaviour Wire.Answer State} {controller : Controller} {start : State}

theorem run_of_read {first second : List String}
    (same : Script.read 1 first = Script.read 1 second) : run first = run second := by
  rw [run, run, follow_carries_out, follow_carries_out, same]

theorem same_effect {first second : List String}
    (same : Script.wordLists first = Script.wordLists second) :
    SameEffect behaviour controller start first second := by
  rcases Script.read_same_words same with
    ⟨scripts, readable⟩ | ⟨number, other, reason, commands, early, late⟩
  · have action := run_of_read scripts
    refine ⟨by rw [action], by rw [action], by rw [action], .inl ⟨by rw [action], ?_, ?_⟩⟩
    · intro number reason stuck
      exact readable number reason (stuck_at_iff.mp stuck).2
    · intro number reason stuck
      exact readable number reason (scripts ▸ (stuck_at_iff.mp stuck).2)
  · -- Both scripts end with a fault, be it of a command or of the line that is none.
    obtain ⟨trace, after, state, failed, succeeded⟩ :=
      enact_run_from_apart behaviour controller start commands early late
    refine ⟨trace, after, state, ?_⟩
    cases executed : (enact behaviour (executeAll (Script.read 1 first).commands) controller
      start).value.1 with
    | error fault =>
        obtain ⟨near, far⟩ := failed fault executed
        exact .inl ⟨near.trans far.symm, not_stuck_of_failed executed,
          not_stuck_of_failed (commands ▸ executed)⟩
    | ok =>
        obtain ⟨near, far⟩ := succeeded executed
        exact .inr ⟨number, other, reason, stuck_at_iff.mpr ⟨executed, early⟩,
          stuck_at_iff.mpr ⟨commands ▸ executed, late⟩, near, far⟩

/-- The layout of a script is of no effect. -/
theorem layout_is_immaterial (behaviour : Behaviour Wire.Answer State) (controller : Controller)
    (start : State) :
    (∀ first second, Script.wordLists first = Script.wordLists second →
      SameEffect behaviour controller start first second) ∧
    (∀ first second, Relaid first second → SameEffect behaviour controller start first second) ∧
    ∀ text, enact behaviour (run (Text.lines (Text.withReturns text))) controller start =
      enact behaviour (run (Text.lines text)) controller start := by
  refine ⟨fun first second same => same_effect same,
    fun first second relaid => same_effect (Script.relaid_word_lists relaid), fun text => ?_⟩
  rw [run_of_read (Script.read_returned 1 text)]

/-- The same three lines with a comment and other spaces among them fail at their own places. -/
theorem layout_is_immaterial_indented :
    let plain := ["enable light L1", "sleep 2", "wake L1"]
    let spread := ["# a day", "  enable  light\tL1", "", "sleep 2 ", "\twake L1"]
    Script.wordLists plain = Script.wordLists spread ∧
      SameEffect Rehearsal.answer (fresh ⟨"localhost", 1870, 5001⟩ {}) {} plain spread := by
  have same : Script.wordLists ["enable light L1", "sleep 2", "wake L1"] =
      Script.wordLists ["# a day", "  enable  light\tL1", "", "sleep 2 ", "\twake L1"] := by
    decide
  exact ⟨same, (layout_is_immaterial Rehearsal.answer _ {}).1 _ _ same⟩

end Controller
end StandIn
