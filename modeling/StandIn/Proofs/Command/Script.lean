import StandIn.Command.Line
import StandIn.Proofs.Text.Lines

/-!
What there is to do in a script: the commands before the first line that is none, and the fault of
that line if there is one. Of the lines themselves only the words of those that are neither comments
nor blank matter for this, and the number of a line only for its own fault.
-/

set_option autoImplicit false

namespace StandIn

/-- The fault of a line that stands so many lines further down. -/
def Fault.moved (shift : Nat) : Fault → Fault
  | .scriptLine number reason => .scriptLine (number + shift) reason
  | fault => fault

namespace Command

/-- Whether there is anything to be done for a line. -/
def isOrder (line : String) : Bool :=
  !(isComment line || Text.allBlank line)

theorem seconds_moved (number shift : Nat) (action word : String) :
    seconds (number + shift) action word =
      (seconds number action word).mapError (Fault.moved shift) := by
  unfold seconds
  split
  · rfl
  · split
    · rfl
    · split <;> rfl

theorem map_moved {Value Result : Type} (given : Except Fault Value) (change : Value → Result)
    (shift : Nat) : (given.mapError (Fault.moved shift)).map change =
      (given.map change).mapError (Fault.moved shift) := by
  cases given <;> rfl

theorem of_words_moved (number shift : Nat) (words : List String) :
    ofWords (number + shift) words = (ofWords number words).mapError (Fault.moved shift) := by
  unfold ofWords
  split
  · rfl
  · rfl
  · rfl
  · rw [seconds_moved, map_moved]
  · rw [seconds_moved, map_moved]
  · split
    · rfl
    · split <;> rfl

theorem of_line_order {line : String} (order : isOrder line = true) (number : Nat) :
    ofLine number line = ofWords number (Text.words line) := by
  have heard : (isComment line || Text.allBlank line) = false := by simpa [isOrder] using order
  rw [ofLine, heard, if_neg Bool.false_ne_true]

theorem of_line_skipped {line : String} (skipped : isOrder line = false) (number : Nat) :
    ofLine number line = .ok none := by
  have passed : (isComment line || Text.allBlank line) = true := by
    simpa only [isOrder, Bool.not_eq_false'] using skipped
  rw [ofLine, passed, if_pos rfl]

theorem of_line_moved (number shift : Nat) (line : String) :
    ofLine (number + shift) line = (ofLine number line).mapError (Fault.moved shift) := by
  by_cases order : isOrder line = true
  · rw [of_line_order order, of_line_order order, of_words_moved]
  · have skipped : isOrder line = false := by simpa using order
    rw [of_line_skipped skipped, of_line_skipped skipped]
    rfl

theorem seconds_number {number place : Nat} {action word reason : String}
    (read : seconds number action word = .error (.scriptLine place reason)) : place = number := by
  unfold seconds at read
  split at read
  · cases read
    rfl
  · split at read
    · cases read
      rfl
    · split at read <;> cases read

theorem map_error {Value Result : Type} {given : Except Fault Value} {change : Value → Result}
    {fault : Fault} (failed : given.map change = .error fault) : given = .error fault := by
  cases given with
  | error other => simpa [Except.map] using failed
  | ok value => cases failed

theorem of_words_number {number place : Nat} {words : List String} {reason : String}
    (read : ofWords number words = .error (.scriptLine place reason)) : place = number := by
  unfold ofWords at read
  split at read
  · cases read
  · cases read
  · cases read
  · exact seconds_number (map_error read)
  · exact seconds_number (map_error read)
  · split at read
    · cases read
      rfl
    · split at read
      · cases read
        rfl
      · cases read
        rfl

/-- A line that is no command says so under its own number. -/
theorem of_line_number {number place : Nat} {line reason : String}
    (read : ofLine number line = .error (.scriptLine place reason)) : place = number := by
  by_cases order : isOrder line = true
  · rw [of_line_order order] at read
    exact of_words_number read
  · rw [of_line_skipped (by simpa using order)] at read
    cases read

theorem of_lines_append (number : Nat) (first second : List String) :
    ofLines number (first ++ second) =
      ofLines number first ++ ofLines (number + first.length) second := by
  induction first generalizing number with
  | nil => rfl
  | cons line rest induction =>
      have further : number + 1 + rest.length = number + (line :: rest).length := by
        rw [List.length_cons]
        omega
      rw [List.cons_append, ofLines, ofLines, induction, further, List.cons_append]

theorem map_some_ne_none {given : Except Fault Nat} {change : Nat → Command} :
    given.map (fun value => some (change value)) ≠ .ok none := by
  cases given <;> simp [Except.map]

theorem of_words_none {number : Nat} {words : List String}
    (read : ofWords number words = .ok none) : words = [] := by
  unfold ofWords at read
  split at read
  · rfl
  · cases read
  · cases read
  · exact absurd read map_some_ne_none
  · exact absurd read map_some_ne_none
  · split at read
    · cases read
    · split at read <;> cases read

/-- Only comments and blank lines are passed over. -/
theorem of_line_none {number : Nat} {line : String} (read : ofLine number line = .ok none) :
    isOrder line = false := by
  by_cases order : isOrder line = true
  · rw [of_line_order order] at read
    have blank : Text.allBlank line = true := (Text.words_eq_nil_iff line).mp (of_words_none read)
    simp [isOrder, blank]
  · simpa using order

end Command

/-- What there is to do: commands, and then nothing or a fault. -/
structure Script where
  commands : List Command
  ending : Except Fault Unit

namespace Script

def ofReadings : List (Except Fault (Option Command)) → Script
  | [] => ⟨[], .ok ()⟩
  | .error fault :: _ => ⟨[], .error fault⟩
  | .ok none :: rest => ofReadings rest
  | .ok (some command) :: rest => ⟨command :: (ofReadings rest).commands, (ofReadings rest).ending⟩

/-- The script on lines that are numbered from the given number. -/
def read (number : Nat) (lines : List String) : Script :=
  ofReadings (Command.ofLines number lines)

/-- One script and then another, which is never come to if the first ends with a fault. -/
def append (first second : Script) : Script :=
  match first.ending with
  | .error fault => ⟨first.commands, .error fault⟩
  | .ok () => ⟨first.commands ++ second.commands, second.ending⟩

/-- The same script so many lines further down. -/
def moved (shift : Nat) (script : Script) : Script :=
  ⟨script.commands, script.ending.mapError (Fault.moved shift)⟩

theorem of_readings_append (first second : List (Except Fault (Option Command))) :
    ofReadings (first ++ second) = (ofReadings first).append (ofReadings second) := by
  induction first with
  | nil => rfl
  | cons reading rest induction =>
      cases reading with
      | error fault => rfl
      | ok found =>
          cases found with
          | none => exact induction
          | some command =>
              rw [List.cons_append, ofReadings, ofReadings, induction, append, append]
              cases (ofReadings rest).ending <;> rfl

theorem read_append (number : Nat) (first second : List String) :
    read number (first ++ second) =
      (read number first).append (read (number + first.length) second) := by
  rw [read, Command.of_lines_append, of_readings_append]
  rfl

theorem of_readings_moved (shift : Nat) (readings : List (Except Fault (Option Command))) :
    ofReadings (readings.map fun reading => reading.mapError (Fault.moved shift)) =
      (ofReadings readings).moved shift := by
  induction readings with
  | nil => rfl
  | cons reading rest induction =>
      cases reading with
      | error fault => rfl
      | ok found =>
          cases found with
          | none => exact induction
          | some command =>
              have same : (Except.ok (some command)).mapError (Fault.moved shift) =
                  .ok (some command) := rfl
              rw [List.map_cons, same, ofReadings, induction]
              rfl

theorem read_moved (number shift : Nat) (lines : List String) :
    read (number + shift) lines = (read number lines).moved shift := by
  have readings : Command.ofLines (number + shift) lines =
      (Command.ofLines number lines).map fun reading => reading.mapError (Fault.moved shift) := by
    induction lines generalizing number with
    | nil => rfl
    | cons line rest induction =>
        have further : number + shift + 1 = number + 1 + shift := by omega
        rw [Command.ofLines, Command.ofLines, List.map_cons, Command.of_line_moved, further, induction]
  rw [read, readings, of_readings_moved]
  rfl

/-- Only a script that ends at a line is told apart by where it stands. -/
theorem moved_cases (script : Script) :
    (∃ number reason, ∀ shift, (script.moved shift).ending =
      .error (.scriptLine (number + shift) reason)) ∨
    (∀ shift, script.moved shift = script) ∧
      ∀ number reason, script.ending ≠ .error (.scriptLine number reason) := by
  obtain ⟨commands, ending⟩ := script
  cases ending with
  | ok => exact .inr ⟨fun _ => rfl, fun _ _ same => nomatch same⟩
  | error fault =>
      cases fault with
      | scriptLine number reason => exact .inl ⟨number, reason, fun _ => rfl⟩
      | _ => exact .inr ⟨fun _ => rfl, fun _ _ same => nomatch same⟩

theorem read_cons_error {number : Nat} {line : String} {fault : Fault}
    (unreadable : Command.ofLine number line = .error fault) (rest : List String) :
    read number (line :: rest) = ⟨[], .error fault⟩ := by
  simp only [read, Command.ofLines, unreadable, ofReadings]

theorem read_cons_none {number : Nat} {line : String}
    (skipped : Command.ofLine number line = .ok none) (rest : List String) :
    read number (line :: rest) = read (number + 1) rest := by
  simp only [read, Command.ofLines, skipped, ofReadings]

theorem read_cons_some {number : Nat} {line : String} {command : Command}
    (found : Command.ofLine number line = .ok (some command)) (rest : List String) :
    read number (line :: rest) =
      ⟨command :: (read (number + 1) rest).commands, (read (number + 1) rest).ending⟩ := by
  simp only [read, Command.ofLines, found, ofReadings]

/-- A script ends with the fault of a line, which comes after all of its commands. -/
theorem read_ending_error {number : Nat} {lines : List String} {fault : Fault}
    (ended : (read number lines).ending = .error fault) :
    ∃ earlier line later, lines = earlier ++ line :: later ∧
      Command.ofLine (number + earlier.length) line = .error fault ∧
      read number earlier = ⟨(read number lines).commands, .ok ()⟩ := by
  induction lines generalizing number with
  | nil => cases ended
  | cons line rest induction =>
      cases reading : Command.ofLine number line with
      | error reason =>
          rw [read_cons_error reading] at ended ⊢
          cases ended
          exact ⟨[], line, rest, rfl, reading, rfl⟩
      | ok found =>
          have further : ∀ length : Nat, number + (length + 1) = number + 1 + length := by omega
          cases found with
          | none =>
              rw [read_cons_none reading] at ended ⊢
              obtain ⟨earlier, last, later, rfl, unreadable, same⟩ := induction ended
              refine ⟨line :: earlier, last, later, rfl, ?_, ?_⟩
              · rw [List.length_cons, further]
                exact unreadable
              · rw [read_cons_none reading]
                exact same
          | some command =>
              rw [read_cons_some reading] at ended ⊢
              obtain ⟨earlier, last, later, rfl, unreadable, same⟩ := induction ended
              refine ⟨line :: earlier, last, later, rfl, ?_, ?_⟩
              · rw [List.length_cons, further]
                exact unreadable
              · rw [read_cons_some reading, same]

/-- A script that can be read to its end has as many commands as there are lines with orders. -/
theorem read_length {number : Nat} {lines : List String}
    (complete : (read number lines).ending = .ok ()) :
    (read number lines).commands.length = (lines.filter Command.isOrder).length := by
  induction lines generalizing number with
  | nil => rfl
  | cons line rest induction =>
      cases reading : Command.ofLine number line with
      | error fault =>
          rw [read_cons_error reading] at complete
          cases complete
      | ok found =>
          cases found with
          | none =>
              rw [read_cons_none reading] at complete ⊢
              rw [induction complete, List.filter_cons_of_neg (by simp [Command.of_line_none reading])]
          | some command =>
              have order : Command.isOrder line = true := by
                by_contra skipped
                rw [Command.of_line_skipped (by simpa using skipped)] at reading
                cases reading
              rw [read_cons_some reading] at complete ⊢
              rw [List.filter_cons_of_pos order, List.length_cons, List.length_cons,
                induction complete]

/-! ## The words of a script -/

/-- The words of every line that is neither a comment nor blank. -/
def wordLists (lines : List String) : List (List String) :=
  (lines.filter Command.isOrder).map Text.words

theorem word_lists_append (first second : List String) :
    wordLists (first ++ second) = wordLists first ++ wordLists second := by
  simp only [wordLists, List.filter_append, List.map_append]

/-- The script of some words, as if all of them stood on a line of number zero. -/
def ofWords (words : List (List String)) : Script :=
  ofReadings (words.map (Command.ofWords 0))

/-- The words make the script, and the lines only the number in its fault. -/
theorem read_of_words (number : Nat) (lines : List String) :
    ∃ shift, read number lines = (ofWords (wordLists lines)).moved shift := by
  induction lines generalizing number with
  | nil => exact ⟨0, rfl⟩
  | cons line rest induction =>
      obtain ⟨shift, same⟩ := induction (number + 1)
      by_cases order : Command.isOrder line = true
      · have here : Command.ofLine number line =
            (Command.ofWords 0 (Text.words line)).mapError (Fault.moved number) := by
          rw [Command.of_line_order order, ← Command.of_words_moved, Nat.zero_add]
        have first : wordLists (line :: rest) = Text.words line :: wordLists rest := by
          rw [wordLists, List.filter_cons_of_pos order]
          rfl
        rw [first, ofWords, List.map_cons]
        cases reading : Command.ofWords 0 (Text.words line) with
        | error fault =>
            rw [reading] at here
            exact ⟨number, by rw [read_cons_error here]; rfl⟩
        | ok found =>
            rw [reading] at here
            refine ⟨shift, ?_⟩
            cases found with
            | none =>
                rw [read_cons_none here, same]
                rfl
            | some command =>
                rw [read_cons_some here, same]
                rfl
      · have skipped : Command.isOrder line = false := by simpa using order
        have none : wordLists (line :: rest) = wordLists rest := by
          rw [wordLists, List.filter_cons_of_neg order]
          rfl
        exact ⟨shift, by rw [read_cons_none (Command.of_line_skipped skipped number), none, same]⟩

end Script
end StandIn
