import Mathlib.Data.List.Nodup
import StandIn.Number.Range
import StandIn.Toml.Value

/-!
What every document has that a reader may come up with: at any depth, no table has a key twice, and
a whole number has 64 bits with sign.
-/

set_option autoImplicit false

namespace StandIn.Toml

/-- No two entries have the same key. -/
def Distinct {Item : Type} (entries : List (String × Item)) : Prop :=
  (entries.map Prod.fst).Nodup

theorem Distinct.unique {Item : Type} {entries : List (String × Item)} (distinct : Distinct entries)
    {key : String} {first second : Item} (firstMember : (key, first) ∈ entries)
    (secondMember : (key, second) ∈ entries) : first = second := by
  have same := List.inj_on_of_nodup_map distinct firstMember secondMember rfl
  exact (Prod.mk.inj same).2

/-- Keys are distinct and whole numbers have 64 bits with sign, at any depth. -/
inductive Value.Proper : Value → Prop
  | string (text : String) : Value.Proper (.string text)
  | integer (number : Int) (fits : isSigned64 number = true) : Value.Proper (.integer number)
  | float (number : Binary64) : Value.Proper (.float number)
  | boolean (truth : Bool) : Value.Proper (.boolean truth)
  | moment : Value.Proper .moment
  | array (items : List Value) (each : ∀ item ∈ items, item.Proper) : Value.Proper (.array items)
  | table (entries : Entries) (distinct : Distinct entries)
      (each : ∀ entry ∈ entries, entry.2.Proper) : Value.Proper (.table entries)

structure Entries.Proper (entries : Entries) : Prop where
  distinct : Distinct entries
  each : ∀ entry ∈ entries, entry.2.Proper

theorem Value.Proper.entries {entries : Entries} (proper : (Value.table entries).Proper) :
    entries.Proper := by
  cases proper with
  | table _ distinct each => exact ⟨distinct, each⟩

theorem Entries.Proper.inner {document entries : Entries} (proper : document.Proper) {key : String}
    (member : (key, .table entries) ∈ document) : entries.Proper :=
  (proper.each _ member).entries

theorem Value.Proper.fits {number : Int} (proper : (Value.integer number).Proper) :
    isSigned64 number = true := by
  cases proper with
  | integer _ fits => exact fits

end StandIn.Toml
