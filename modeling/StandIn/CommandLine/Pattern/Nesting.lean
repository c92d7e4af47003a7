/-!
How deep the parts of a pattern lie in one another. A single character has height zero. A group, a
class and a repetition are higher by one than what is in them, and so is a row of two or more parts.
-/

set_option autoImplicit false

namespace StandIn.Pattern

def heightLimit : Nat := 250

/-- Parts side by side. -/
structure Row where
  count : Nat := 0
  /-- The height of the last part. -/
  last : Nat := 0
  /-- The greatest height of the other parts. -/
  others : Nat := 0

namespace Row

def add (row : Row) (height : Nat) : Row :=
  ⟨row.count + 1, height, max row.others row.last⟩

def repeatLast (row : Row) : Row :=
  { row with last := row.last + 1 }

/-- A row of one part is no more than the part. -/
def height (row : Row) : Nat :=
  if row.count ≤ 1 then row.last else max row.others row.last + 1

end Row

/-- What is in a group or a class so far: rows with signs between them. -/
structure Layer where
  /-- The height of what stands before the last sign, if there is a sign. -/
  before : Option Nat := none
  row : Row := {}

namespace Layer

def add (layer : Layer) (height : Nat) : Layer :=
  { layer with row := layer.row.add height }

def repeatLast (layer : Layer) : Layer :=
  { layer with row := layer.row.repeatLast }

def height (layer : Layer) : Nat :=
  match layer.before with
  | none => layer.row.height
  | some before => max before layer.row.height + 1

/-- After a bar. All alternatives lie side by side. -/
def alternate (layer : Layer) : Layer :=
  ⟨some (max (layer.before.getD 0) layer.row.height), {}⟩

/-- After an operator between classes. The left side is closer than the right one. -/
def operate (layer : Layer) : Layer :=
  ⟨some layer.height, {}⟩

def enclose (inner outer : Layer) : Layer :=
  outer.add (inner.height + 1)

end Layer
end StandIn.Pattern
