import Mathlib.Logic.ExistsUnique
import StandIn.Command.Line
import StandIn.Proofs.Command.Script
import StandIn.Proofs.Text.Decimal

/-!
The grammar of script lines, told by the words of a line alone. A line is passed over, gives an
order, asks for a time that is nonsense, or says nothing that could be done; it is always exactly
one of these, and what it is decides how it is read.
-/

set_option autoImplicit false

namespace StandIn

open Text (Denotes IsWord)

theorem Text.Denotes.unique {word : String} {value other : Int} (denotes : Denotes word.toList value)
    (again : Denotes word.toList other) : value = other := by
  rw [← Text.integer_eq_some_iff] at denotes again
  exact Option.some.inj (denotes.symm.trans again)

theorem Text.split_words_solid {character : Char} (solid : Text.isBlank character = false)
    (rest : List Char) :
    ∃ word others, Text.splitWords (character :: rest) = (character :: word) :: others := by
  rw [Text.splitWords, solid, if_neg Bool.false_ne_true]
  split
  · cases Text.splitWords rest with
    | nil => exact ⟨[], [], rfl⟩
    | cons piece others => exact ⟨piece, others, rfl⟩
  · exact ⟨[], Text.splitWords rest, rfl⟩

namespace Command

/-- The greatest time that can be asked for, the greatest integer of 64 bits with sign. -/
def mostSeconds : Int := 9223372036854775807

/-- The least number that is read as a time at all, the least integer of 64 bits with sign. -/
def leastSeconds : Int := -9223372036854775808

/-- Comments begin with a number sign, and blank lines have nothing but blanks. -/
def Skipped (line : String) : Prop :=
  line.toList.head? = some '#' ∨ ∀ character ∈ line.toList, Text.isBlank character = true

/-- The orders that words can give. -/
inductive Orders : List String → Command → Prop where
  | enable (kind name : String) : Orders ["enable", kind, name] (.enable ⟨kind, name⟩)
  | disable (kind name : String) : Orders ["disable", kind, name] (.disable ⟨kind, name⟩)
  | dieHorribly (word : String) (value : Nat) (denotes : Denotes word.toList value)
      (fits : (value : Int) ≤ mostSeconds) : Orders ["dieHorribly", word] (.dieHorribly value)
  | sleep (word : String) (value : Nat) (denotes : Denotes word.toList value)
      (fits : (value : Int) ≤ mostSeconds) : Orders ["sleep", word] (.sleep value)

section Orders

variable {words : List String} {kind name : String} {value : Nat}

theorem orders_enable_iff :
    Orders words (.enable ⟨kind, name⟩) ↔ words = ["enable", kind, name] := by
  constructor
  · intro orders
    cases orders
    rfl
  · rintro rfl
    exact .enable kind name

theorem orders_disable_iff :
    Orders words (.disable ⟨kind, name⟩) ↔ words = ["disable", kind, name] := by
  constructor
  · intro orders
    cases orders
    rfl
  · rintro rfl
    exact .disable kind name

theorem orders_die_horribly_iff : Orders words (.dieHorribly value) ↔
    ∃ word, words = ["dieHorribly", word] ∧ Denotes word.toList value ∧
      (value : Int) ≤ mostSeconds := by
  constructor
  · rintro ⟨⟩
    next word denotes fits => exact ⟨word, rfl, denotes, fits⟩
  · rintro ⟨word, rfl, denotes, fits⟩
    exact .dieHorribly word value denotes fits

theorem orders_sleep_iff : Orders words (.sleep value) ↔
    ∃ word, words = ["sleep", word] ∧ Denotes word.toList value ∧
      (value : Int) ≤ mostSeconds := by
  constructor
  · rintro ⟨⟩
    next word denotes fits => exact ⟨word, rfl, denotes, fits⟩
  · rintro ⟨word, rfl, denotes, fits⟩
    exact .sleep word value denotes fits

end Orders

/-- The words ask for a time below zero, and for what. -/
inductive Nonsense : List String → String → Int → Prop where
  | dieHorribly (word : String) (value : Int) (denotes : Denotes word.toList value)
      (fits : leastSeconds ≤ value) (negative : value < 0) :
      Nonsense ["dieHorribly", word] "die" value
  | sleep (word : String) (value : Int) (denotes : Denotes word.toList value)
      (fits : leastSeconds ≤ value) (negative : value < 0) : Nonsense ["sleep", word] "sleep" value

theorem nonsense_iff {words : List String} {action : String} {value : Int} :
    Nonsense words action value ↔
      ∃ verb word, (verb, action) ∈ [("dieHorribly", "die"), ("sleep", "sleep")] ∧
        words = [verb, word] ∧ Denotes word.toList value ∧ leastSeconds ≤ value ∧ value < 0 := by
  constructor
  · intro nonsense
    cases nonsense with
    | dieHorribly word value denotes fits negative =>
        exact ⟨"dieHorribly", word, by simp, rfl, denotes, fits, negative⟩
    | sleep word value denotes fits negative =>
        exact ⟨"sleep", word, by simp, rfl, denotes, fits, negative⟩
  · rintro ⟨verb, word, verbs, rfl, denotes, fits, negative⟩
    simp only [List.mem_cons, List.not_mem_nil, or_false, Prod.mk.injEq] at verbs
    rcases verbs with ⟨rfl, rfl⟩ | ⟨rfl, rfl⟩
    · exact .dieHorribly word value denotes fits negative
    · exact .sleep word value denotes fits negative

def nonsenseFault (action : String) (value : Int) : Fault :=
  .invalidArgument ("it's nonsense to " ++ action ++ " for " ++ Text.ofInt value ++ "s")

/-- Everything that a line can be. -/
inductive Case where
  | skipped
  | order (command : Command)
  | nonsense (action : String) (value : Int)
  | unreadable

/-- What a line is, by the grammar. -/
def Is (line : String) : Case → Prop
  | .skipped => Skipped line
  | .order command => Orders (Text.words line) command
  | .nonsense action value => Nonsense (Text.words line) action value
  | .unreadable => ¬ Skipped line ∧ (∀ command, ¬ Orders (Text.words line) command) ∧
      ∀ action value, ¬ Nonsense (Text.words line) action value

/-- How a line that is of this case is read. -/
def Case.Reads (number : Nat) : Case → Except Fault (Option Command) → Prop
  | .skipped, reading => reading = .ok none
  | .order command, reading => reading = .ok (some command)
  | .nonsense action value, reading => reading = .error (nonsenseFault action value)
  | .unreadable, reading => ∃ reason, reading = .error (.scriptLine number reason)

/-! ## Lines that are passed over -/

variable {line : String}

theorem is_order_iff : isOrder line = true ↔ ¬ Skipped line := by
  simp [isOrder, isComment, Text.allBlank, Skipped]

theorem comment_first_word (comment : line.toList.head? = some '#') :
    ∃ word others, Text.words line = word :: others ∧ word.toList.head? = some '#' := by
  cases characters : line.toList with
  | nil => simp [characters] at comment
  | cons first rest =>
      have sign : first = '#' := by simpa [characters] using comment
      subst sign
      have solid : Text.isBlank '#' = false := by decide
      obtain ⟨word, others, split⟩ := Text.split_words_solid solid rest
      refine ⟨String.ofList ('#' :: word), others.map String.ofList, ?_, ?_⟩
      · rw [Text.words, characters, split, List.map_cons]
      · rw [String.toList_ofList, List.head?_cons]

/-- A line whose first word does not begin with a number sign is not passed over. -/
theorem not_skipped {verb : String} {others : List String} (words : Text.words line = verb :: others)
    (plain : verb.toList.head? ≠ some '#') : ¬ Skipped line := by
  rintro (comment | blank)
  · obtain ⟨word, rest, same, sign⟩ := comment_first_word comment
    rw [words] at same
    obtain ⟨rfl, _⟩ := List.cons.inj same
    exact plain sign
  · have allBlank : Text.allBlank line = true := by simpa [Text.allBlank] using blank
    rw [(Text.words_eq_nil_iff line).mpr allBlank] at words
    cases words

theorem Orders.not_skipped {command : Command} (orders : Orders (Text.words line) command) :
    ¬ Skipped line := by
  generalize words : Text.words line = found at orders
  cases orders <;> exact Command.not_skipped words (by decide)

theorem Nonsense.not_skipped {action : String} {value : Int}
    (nonsense : Nonsense (Text.words line) action value) : ¬ Skipped line := by
  generalize words : Text.words line = found at nonsense
  cases nonsense <;> exact Command.not_skipped words (by decide)

/-! ## Times -/

variable {number : Nat} {action word : String}

theorem seconds_ok {value : Nat} (denotes : Denotes word.toList value)
    (fits : (value : Int) ≤ mostSeconds) : seconds number action word = .ok value := by
  unfold mostSeconds at fits
  have signed : isSigned64 (value : Int) = true := by
    simp only [isSigned64, Bool.and_eq_true, decide_eq_true_eq]
    omega
  have positive : ¬ (value : Int) < 0 := by omega
  simp only [seconds, Text.integer_eq_some_iff.mpr denotes, signed, Bool.not_true,
    if_neg Bool.false_ne_true, if_neg positive, Int.toNat_natCast]

theorem seconds_nonsense {value : Int} (denotes : Denotes word.toList value)
    (fits : leastSeconds ≤ value) (negative : value < 0) :
    seconds number action word = .error (nonsenseFault action value) := by
  unfold leastSeconds at fits
  have signed : isSigned64 value = true := by
    simp only [isSigned64, Bool.and_eq_true, decide_eq_true_eq]
    omega
  simp only [seconds, Text.integer_eq_some_iff.mpr denotes, signed, Bool.not_true,
    if_neg Bool.false_ne_true, if_pos negative, nonsenseFault]

/-- A word that is no time, of either sign, is a fault of the line. -/
theorem seconds_unreadable
    (none : ∀ value, Denotes word.toList value → ¬ (leastSeconds ≤ value ∧ value ≤ mostSeconds)) :
    ∃ reason, seconds number action word = .error (.scriptLine number reason) := by
  refine ⟨(LineFault.notWholeSeconds word).message, ?_⟩
  cases read : Text.integer? word with
  | none => simp only [seconds, read]
  | some value =>
      have unsigned : isSigned64 value = false := by
        have outside := none value (Text.integer_eq_some_iff.mp read)
        unfold leastSeconds mostSeconds at outside
        simpa [isSigned64] using outside
      simp only [seconds, read, unsigned, Bool.not_false, if_true]

/-- The word is a time from zero on, a time below zero, or no time. -/
theorem seconds_cases (number : Nat) (action word : String) :
    (∃ value : Nat, Denotes word.toList value ∧ (value : Int) ≤ mostSeconds) ∨
      (∃ value, Denotes word.toList value ∧ leastSeconds ≤ value ∧ value < 0) ∨
        ∃ reason, seconds number action word = .error (.scriptLine number reason) := by
  by_cases read : ∃ value, Denotes word.toList value ∧ leastSeconds ≤ value ∧ value ≤ mostSeconds
  · obtain ⟨value, denotes, lower, upper⟩ := read
    by_cases negative : value < 0
    · exact .inr (.inl ⟨value, denotes, lower, negative⟩)
    · obtain ⟨count, rfl⟩ := Int.eq_ofNat_of_zero_le (Int.not_lt.mp negative)
      exact .inl ⟨count, denotes, upper⟩
  · refine .inr (.inr (seconds_unreadable fun value denotes inside => ?_))
    exact read ⟨value, denotes, inside⟩

/-! ## How lines are read -/

theorem Orders.read {words : List String} {command : Command} (orders : Orders words command)
    (number : Nat) : ofWords number words = .ok (some command) := by
  cases orders with
  | enable kind name => rfl
  | disable kind name => rfl
  | dieHorribly word value denotes fits =>
      rw [ofWords, seconds_ok denotes fits]
      rfl
  | sleep word value denotes fits =>
      rw [ofWords, seconds_ok denotes fits]
      rfl

theorem Nonsense.read {words : List String} {value : Int} (nonsense : Nonsense words action value)
    (number : Nat) : ofWords number words = .error (nonsenseFault action value) := by
  cases nonsense with
  | dieHorribly word value denotes fits negative =>
      rw [ofWords, seconds_nonsense denotes fits negative]
      rfl
  | sleep word value denotes fits negative =>
      rw [ofWords, seconds_nonsense denotes fits negative]
      rfl

theorem map_failed {given : Except Fault Nat} {change : Nat → Option Command} {reason : String}
    (failed : given = .error (.scriptLine number reason)) :
    given.map change = .error (.scriptLine number reason) := by
  rw [failed]
  rfl

/-- Words that are no order and no nonsense are a fault of their line. -/
theorem of_words_unreadable {words : List String} (filled : words ≠ [])
    (noOrder : ∀ command, ¬ Orders words command)
    (noNonsense : ∀ action value, ¬ Nonsense words action value) (number : Nat) :
    ∃ reason, ofWords number words = .error (.scriptLine number reason) := by
  unfold ofWords
  split
  · exact absurd rfl filled
  · next kind name => exact absurd (.enable kind name) (noOrder _)
  · next kind name => exact absurd (.disable kind name) (noOrder _)
  · next word =>
    rcases seconds_cases number "die" word with
      ⟨value, denotes, fits⟩ | ⟨value, denotes, fits, negative⟩ | ⟨reason, failed⟩
    · exact absurd (.dieHorribly word value denotes fits) (noOrder _)
    · exact absurd (.dieHorribly word value denotes fits negative) (noNonsense _ _)
    · exact ⟨reason, map_failed failed⟩
  · next word =>
    rcases seconds_cases number "sleep" word with
      ⟨value, denotes, fits⟩ | ⟨value, denotes, fits, negative⟩ | ⟨reason, failed⟩
    · exact absurd (.sleep word value denotes fits) (noOrder _)
    · exact absurd (.sleep word value denotes fits negative) (noNonsense _ _)
    · exact ⟨reason, map_failed failed⟩
  · split
    · exact ⟨_, rfl⟩
    · split
      · exact ⟨_, rfl⟩
      · exact ⟨_, rfl⟩

theorem Is.reads {case : Case} (is : Is line case) (number : Nat) :
    case.Reads number (ofLine number line) := by
  cases case with
  | skipped =>
      have skipped : Skipped line := is
      have unheard : isOrder line = false := by
        by_contra heard
        exact is_order_iff.mp (by simpa using heard) skipped
      exact of_line_skipped unheard number
  | order command =>
      have orders : Orders (Text.words line) command := is
      have heard := is_order_iff.mpr orders.not_skipped
      exact (of_line_order heard number).trans (orders.read number)
  | nonsense action value =>
      have nonsense : Nonsense (Text.words line) action value := is
      have heard := is_order_iff.mpr nonsense.not_skipped
      exact (of_line_order heard number).trans (nonsense.read number)
  | unreadable =>
      obtain ⟨unskipped, noOrder, noNonsense⟩ := is
      have filled : Text.words line ≠ [] := by
        intro empty
        rw [Text.words_eq_nil_iff] at empty
        exact unskipped (.inr (by simpa [Text.allBlank] using empty))
      obtain ⟨reason, failed⟩ := of_words_unreadable filled noOrder noNonsense number
      exact ⟨reason, (of_line_order (is_order_iff.mpr unskipped) number).trans failed⟩

/-! ## Every line is in one case -/

theorem Nonsense.unique {words : List String} {action other : String} {value again : Int}
    (nonsense : Nonsense words action value) (second : Nonsense words other again) :
    action = other ∧ value = again := by
  cases nonsense with
  | dieHorribly word value denotes fits negative =>
      generalize same : ["dieHorribly", word] = words at second
      cases second with
      | dieHorribly written again denoted fits negative =>
          obtain rfl : word = written := by simpa using same
          exact ⟨rfl, denotes.unique denoted⟩
      | sleep written again denoted fits negative => simp at same
  | sleep word value denotes fits negative =>
      generalize same : ["sleep", word] = words at second
      cases second with
      | dieHorribly written again denoted fits negative => simp at same
      | sleep written again denoted fits negative =>
          obtain rfl : word = written := by simpa using same
          exact ⟨rfl, denotes.unique denoted⟩

/-- How a line is read tells its case, but for which time below zero it asks for. -/
theorem Case.Reads.agree {case other : Case} {reading : Except Fault (Option Command)}
    (reads : case.Reads number reading) (again : other.Reads number reading) :
    case = other ∨ (∃ action value, case = .nonsense action value) ∧
      ∃ action value, other = .nonsense action value := by
  cases case <;> cases other <;> simp_all [Case.Reads, nonsenseFault]

theorem Is.unique {case other : Case} (is : Is line case) (again : Is line other) :
    case = other := by
  rcases (is.reads 0).agree (again.reads 0) with
    same | ⟨⟨action, value, rfl⟩, second, below, rfl⟩
  · exact same
  · obtain ⟨rfl, rfl⟩ := Nonsense.unique is again
    rfl

theorem exists_case (line : String) : ∃ case, Is line case := by
  by_cases skipped : Skipped line
  · exact ⟨.skipped, skipped⟩
  by_cases order : ∃ command, Orders (Text.words line) command
  · obtain ⟨command, orders⟩ := order
    exact ⟨.order command, orders⟩
  by_cases below : ∃ action value, Nonsense (Text.words line) action value
  · obtain ⟨action, value, nonsense⟩ := below
    exact ⟨.nonsense action value, nonsense⟩
  · exact ⟨.unreadable, skipped, not_exists.mp order,
      fun action value nonsense => below ⟨action, value, nonsense⟩⟩

/-- A line that is read as this case would be is of this case. -/
theorem is_of_reads (case : Case) (reads : case.Reads number (ofLine number line))
    (sensible : ∀ action value, case ≠ .nonsense action value) : Is line case := by
  obtain ⟨actual, is⟩ := exists_case line
  rcases (is.reads number).agree reads with rfl | ⟨_, action, value, nonsense⟩
  · exact is
  · exact absurd nonsense (sensible action value)

theorem of_line_none_iff : ofLine number line = .ok none ↔ Skipped line := by
  constructor
  · intro read
    exact is_of_reads .skipped read (by simp)
  · intro skipped
    have is : Is line .skipped := skipped
    exact is.reads number

theorem of_line_some_iff {command : Command} :
    ofLine number line = .ok (some command) ↔ Orders (Text.words line) command := by
  constructor
  · intro read
    exact is_of_reads (.order command) read (by simp)
  · intro orders
    have is : Is line (.order command) := orders
    exact is.reads number

theorem of_line_unreadable_iff :
    (∃ reason, ofLine number line = .error (.scriptLine number reason)) ↔ Is line .unreadable := by
  constructor
  · intro read
    exact is_of_reads .unreadable read (by simp)
  · intro unreadable
    exact unreadable.reads number

theorem of_line_nonsense_iff {reason : String} :
    ofLine number line = .error (.invalidArgument reason) ↔
      ∃ action value, Nonsense (Text.words line) action value ∧
        Fault.invalidArgument reason = nonsenseFault action value := by
  constructor
  · intro read
    obtain ⟨case, is⟩ := exists_case line
    have reads := is.reads number
    rw [read] at reads
    cases case with
    | skipped => cases reads
    | order command => cases reads
    | nonsense action value => exact ⟨action, value, is, Except.error.inj reads⟩
    | unreadable => exact nomatch reads
  · rintro ⟨action, value, nonsense, message⟩
    have is : Is line (.nonsense action value) := nonsense
    rw [message]
    exact is.reads number

/-! ## Devices of any name -/

theorem words_device {verb kind name : String} (isVerb : IsWord verb.toList)
    (isKind : IsWord kind.toList) (isName : IsWord name.toList) :
    Text.words (verb ++ " " ++ kind ++ " " ++ name) = [verb, kind, name] := by
  have blank : Text.isBlank ' ' = true := by decide
  have characters : (verb ++ " " ++ kind ++ " " ++ name).toList =
      verb.toList ++ ' ' :: (kind.toList ++ ' ' :: name.toList) := by
    simp [String.toList_append]
  rw [Text.words, characters, Text.split_words_cons isVerb blank,
    Text.split_words_cons isKind blank, Text.split_words_word isName]
  simp

/-- A line is read by its grammar and by nothing else, and the grammar has one case for it. -/
theorem line_grammar_exact (number : Nat) (line : String) :
    (ofLine number line = .ok none ↔ line.toList.head? = some '#' ∨
      ∀ character ∈ line.toList, Text.isBlank character = true) ∧
    (∀ kind name, ofLine number line = .ok (some (.enable ⟨kind, name⟩)) ↔
      Text.words line = ["enable", kind, name]) ∧
    (∀ kind name, ofLine number line = .ok (some (.disable ⟨kind, name⟩)) ↔
      Text.words line = ["disable", kind, name]) ∧
    (∀ value : Nat, ofLine number line = .ok (some (.sleep value)) ↔
      ∃ word, Text.words line = ["sleep", word] ∧ Denotes word.toList value ∧
        (value : Int) ≤ mostSeconds) ∧
    (∀ value : Nat, ofLine number line = .ok (some (.dieHorribly value)) ↔
      ∃ word, Text.words line = ["dieHorribly", word] ∧ Denotes word.toList value ∧
        (value : Int) ≤ mostSeconds) ∧
    (∀ reason, ofLine number line = .error (.invalidArgument reason) ↔
      ∃ verb action word value, (verb, action) ∈ [("dieHorribly", "die"), ("sleep", "sleep")] ∧
        Text.words line = [verb, word] ∧ Denotes word.toList value ∧ leastSeconds ≤ value ∧
        value < 0 ∧ reason = "it's nonsense to " ++ action ++ " for " ++ Text.ofInt value ++ "s") ∧
    ((∃ reason, ofLine number line = .error (.scriptLine number reason)) ↔
      Is line .unreadable) ∧
    (∃! case, Is line case ∧ case.Reads number (ofLine number line)) ∧
    ∀ kind name, IsWord kind.toList → IsWord name.toList →
      ofLine number ("enable " ++ kind ++ " " ++ name) = .ok (some (.enable ⟨kind, name⟩)) ∧
        ofLine number ("disable " ++ kind ++ " " ++ name) =
          .ok (some (.disable ⟨kind, name⟩)) := by
  refine ⟨of_line_none_iff, ?_, ?_, ?_, ?_, ?_, of_line_unreadable_iff, ?_, ?_⟩
  · intro kind name
    rw [of_line_some_iff, orders_enable_iff]
  · intro kind name
    rw [of_line_some_iff, orders_disable_iff]
  · intro value
    rw [of_line_some_iff, orders_sleep_iff]
  · intro value
    rw [of_line_some_iff, orders_die_horribly_iff]
  · intro reason
    rw [of_line_nonsense_iff]
    constructor
    · rintro ⟨action, value, nonsense, message⟩
      obtain ⟨verb, word, verbs, words, denotes, fits, negative⟩ := nonsense_iff.mp nonsense
      exact ⟨verb, action, word, value, verbs, words, denotes, fits, negative,
        Fault.invalidArgument.inj message⟩
    · rintro ⟨verb, action, word, value, verbs, words, denotes, fits, negative, message⟩
      refine ⟨action, value, nonsense_iff.mpr ?_, congrArg Fault.invalidArgument message⟩
      exact ⟨verb, word, verbs, words, denotes, fits, negative⟩
  · obtain ⟨case, is⟩ := exists_case line
    refine ⟨case, ⟨is, is.reads number⟩, ?_⟩
    rintro other ⟨again, _⟩
    exact again.unique is
  · intro kind name isKind isName
    have enable : IsWord "enable".toList := ⟨by simp, by simp [Text.isBlank]⟩
    have disable : IsWord "disable".toList := ⟨by simp, by simp [Text.isBlank]⟩
    refine ⟨of_line_some_iff.mpr ?_, of_line_some_iff.mpr ?_⟩
    · rw [orders_enable_iff, ← words_device enable isKind isName]
      rfl
    · rw [orders_disable_iff, ← words_device disable isKind isName]
      rfl

-- Neither the verb that stands in second place nor the number sign further on is heard as such.
example : ofLine 4 "enable sleep #1" = .ok (some (.enable ⟨"sleep", "#1"⟩)) := by
  decide +kernel

end Command
end StandIn
