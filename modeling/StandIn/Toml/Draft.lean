import StandIn.Toml.Value

/-!
A document while it is being read. A table is declared by its header, implied by the header of a
table below it, or opened by a dotted key. Each may be completed only in its own way: an implied
table may still be declared, which moves it behind its siblings; a dotted one may be extended by
dotted keys only; a declared one may not be declared or dotted into again. Values are complete.
-/

set_option autoImplicit false

namespace StandIn.Toml

inductive Standing where
  | declared
  | implied
  | dotted
deriving DecidableEq

inductive Draft where
  | value (value : Value)
  | table (standing : Standing) (entries : List (String × Draft))
  /-- The tables of one name that were declared with double brackets, the newest first. -/
  | series (tables : List (List (String × Draft)))

abbrev DraftEntries := List (String × Draft)

namespace Draft

mutual

def toValue : Draft → Value
  | value complete => complete
  | table _ entries => .table (entryValues entries)
  | series tables => .array (tableValues tables).reverse

def entryValues : List (String × Draft) → Entries
  | [] => []
  | (key, draft) :: rest => (key, toValue draft) :: entryValues rest

def tableValues : List (List (String × Draft)) → List Value
  | [] => []
  | entries :: rest => .table (entryValues entries) :: tableValues rest

end

end Draft

namespace DraftEntries

def replace (entries : DraftEntries) (key : String) (draft : Draft) : DraftEntries :=
  entries.map fun (other, old) => if other = key then (other, draft) else (other, old)

def without (entries : DraftEntries) (key : String) : DraftEntries :=
  entries.filter fun (other, _) => other ≠ key

/-- What is done to a table that has been found. -/
abbrev Change := Standing → DraftEntries → Option DraftEntries

/-- Changes the table at the end of a path. Tables that are missing on the way are opened with the
given standing, a series stands for its newest table, and only tables can be gone through; dotted
keys do not go through declared ones. -/
def changeAt (opened : Standing) (change : Change) : List String → Change
  | [], standing, entries => change standing entries
  | key :: path, _, entries =>
    match entries.lookup key with
    | none => do
      let fresh ← changeAt opened change path opened []
      return entries ++ [(key, .table opened fresh)]
    | some (.value _) => none
    | some (.series []) => none
    | some (.series (newest :: others)) => do
      let changed ← changeAt opened change path .declared newest
      return entries.replace key (.series (changed :: others))
    | some (.table standing inner) =>
      if opened = .dotted ∧ standing = .declared then none
      else do
        let changed ← changeAt opened change path standing inner
        return entries.replace key (.table standing changed)

/-- Adds an entry that must be new. A dotted key ends in a dotted table, a plain one does not. -/
def insert (isDotted : Bool) (key : String) (value : Value) : Change :=
  fun standing entries =>
    if (standing == .dotted) != isDotted || (entries.lookup key).isSome then none
    else some (entries ++ [(key, .value value)])

def insertAt (path : List String) (key : String) (value : Value) : Change :=
  changeAt .dotted (insert (!path.isEmpty) key value) path

def declare (key : String) : Change := fun _ entries =>
  match entries.lookup key with
  | none => some (entries ++ [(key, .table .declared [])])
  | some (.table .implied inner) => some (entries.without key ++ [(key, .table .declared inner)])
  | some _ => none

/-- Declares one more table of a series. -/
def extend (key : String) : Change := fun _ entries =>
  match entries.lookup key with
  | none => some (entries ++ [(key, .series [[]])])
  | some (.series tables) => some (entries.replace key (.series ([] :: tables)))
  | some _ => none

end DraftEntries
end StandIn.Toml
