import Mathlib.Data.List.Forall2
import StandIn.Proofs.Text.Words
import StandIn.Text.Line

/-!
Lines under the two customary line ends. When every line feed of a text gets a carriage return in
front of it, the lines stay where they are, and a line changes by at most one carriage return at its
end, which is a blank.
-/

set_option autoImplicit false

namespace StandIn.Text

/-- Every line feed with a carriage return put in front of it. -/
def returnedFeeds (text : List Char) : List Char :=
  text.flatMap fun character => if character = '\n' then ['\r', '\n'] else [character]

def withReturns (text : String) : String :=
  String.ofList (returnedFeeds text.toList)

/-- The same line, but for a carriage return at its end. -/
inductive Returned : List Char → List Char → Prop where
  | same (line : List Char) : Returned line line
  | added (line : List Char) : Returned line (line ++ ['\r'])

theorem Returned.cons {line other : List Char} (returned : Returned line other) (character : Char) :
    Returned (character :: line) (character :: other) := by
  cases returned with
  | same => exact .same (character :: line)
  | added => exact .added (character :: line)

theorem Returned.words {line other : List Char} (returned : Returned line other) :
    splitWords other = splitWords line := by
  cases returned with
  | same => rfl
  | added =>
      have carriage : isBlank '\r' = true := rfl
      have ending := split_words_blank carriage line []
      simpa [splitWords] using ending

theorem prepend_returned {lines others : List (List Char)}
    (returned : List.Forall₂ Returned lines others) (character : Char) :
    List.Forall₂ Returned (prepend character lines) (prepend character others) := by
  cases returned with
  | nil => exact .cons (.same [character]) .nil
  | cons first rest => exact .cons (first.cons character) rest

theorem split_lines_return (rest : List Char) :
    splitLines ('\r' :: '\n' :: rest) = [] :: splitLines rest := by
  simp [splitLines]

theorem split_lines_inside {character : Char} {rest : List Char} (feed : character ≠ '\n')
    (inside : ¬ (character = '\r' ∧ rest.head? = some '\n')) :
    splitLines (character :: rest) = prepend character (splitLines rest) := by
  rw [splitLines, if_neg feed, if_neg inside]

theorem returned_feeds_head {text : List Char} (inside : text.head? ≠ some '\n') :
    (returnedFeeds text).head? ≠ some '\n' := by
  cases text with
  | nil => simp [returnedFeeds]
  | cons character rest =>
      have other : character ≠ '\n' := by simpa using inside
      simp [returnedFeeds, other]

theorem split_lines_returned (text : List Char) :
    List.Forall₂ Returned (splitLines text) (splitLines (returnedFeeds text)) := by
  induction text with
  | nil => exact .nil
  | cons character rest induction =>
      by_cases feed : character = '\n'
      · subst feed
        have changed : returnedFeeds ('\n' :: rest) = '\r' :: '\n' :: returnedFeeds rest := by
          simp [returnedFeeds]
        rw [changed, split_lines_return, splitLines, if_pos rfl]
        exact .cons (.same []) induction
      · have changed : returnedFeeds (character :: rest) = character :: returnedFeeds rest := by
          simp [returnedFeeds, feed]
        by_cases ending : character = '\r' ∧ rest.head? = some '\n'
        · -- The return that belonged to the line end is now followed by another one, and stays.
          obtain ⟨rfl, head⟩ := ending
          obtain ⟨others, rfl⟩ := List.head?_eq_some_iff.mp head
          have behind : returnedFeeds ('\n' :: others) = '\r' :: '\n' :: returnedFeeds others := by
            simp [returnedFeeds]
          have before : splitLines ('\n' :: others) = [] :: splitLines others := by simp [splitLines]
          have after : splitLines ('\r' :: '\r' :: '\n' :: returnedFeeds others) =
              ['\r'] :: splitLines (returnedFeeds others) := by
            rw [split_lines_inside (by decide) (by simp), split_lines_return]
            rfl
          rw [behind, split_lines_return, before] at induction
          rw [changed, behind, after, split_lines_return]
          cases induction with
          | cons _ later => exact .cons (.added []) later
        · have apart : ¬ (character = '\r' ∧ (returnedFeeds rest).head? = some '\n') := by
            rintro ⟨same, head⟩
            exact returned_feeds_head (fun here => ending ⟨same, here⟩) head
          rw [changed, split_lines_inside feed ending, split_lines_inside feed apart]
          exact prepend_returned induction character

end StandIn.Text
