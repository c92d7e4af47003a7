import StandIn.Number.Binary64

/-!
What a TOML document says, without its layout. Tables keep their entries in the order in which the
document gives them, and no two entries of a table have the same key.
-/

set_option autoImplicit false

namespace StandIn.Toml

inductive Value where
  | string (text : String)
  | integer (number : Int)
  | float (number : Binary64)
  | boolean (truth : Bool)
  /-- A date, a time of day, or both. Which one it is does not matter to anybody here. -/
  | moment
  | array (items : List Value)
  | table (entries : List (String × Value))

abbrev Entries := List (String × Value)

-- Values stand in lists of values, so these are compared along with them.
mutual

def Value.decEq (first second : Value) : Decidable (first = second) :=
  if sort : first.ctorIdx = second.ctorIdx then
    match first, second, sort with
    | .string text, .string other, _ => decidable_of_iff (text = other) (by simp)
    | .integer number, .integer other, _ => decidable_of_iff (number = other) (by simp)
    | .float number, .float other, _ => decidable_of_iff (number = other) (by simp)
    | .boolean truth, .boolean other, _ => decidable_of_iff (truth = other) (by simp)
    | .moment, .moment, _ => .isTrue rfl
    | .array items, .array others, _ =>
      have := itemsDecEq items others
      decidable_of_iff (items = others) (by simp)
    | .table entries, .table others, _ =>
      have := entriesDecEq entries others
      decidable_of_iff (entries = others) (by simp)
  else .isFalse fun same => sort (congrArg Value.ctorIdx same)

def itemsDecEq : (items others : List Value) → Decidable (items = others)
  | [], [] => .isTrue rfl
  | [], _ :: _ => .isFalse nofun
  | _ :: _, [] => .isFalse nofun
  | item :: items, other :: others =>
    have := item.decEq other
    have := itemsDecEq items others
    decidable_of_iff (item = other ∧ items = others) (by simp)

def entriesDecEq : (entries others : Entries) → Decidable (entries = others)
  | [], [] => .isTrue rfl
  | [], _ :: _ => .isFalse nofun
  | _ :: _, [] => .isFalse nofun
  | (key, value) :: entries, (other, second) :: others =>
    have := value.decEq second
    have := entriesDecEq entries others
    decidable_of_iff ((key = other ∧ value = second) ∧ entries = others) (by simp)

end

instance : DecidableEq Value := Value.decEq

end StandIn.Toml
