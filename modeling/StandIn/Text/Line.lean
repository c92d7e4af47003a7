import StandIn.Text.Blank

/-!
Lines of a text. A line ends at a line feed, and a carriage return directly before that line feed
belongs to the ending. A text that ends in a line feed has no further empty line, and a carriage
return anywhere else is part of its line.
-/

set_option autoImplicit false

namespace StandIn.Text

def splitLines : List Char → List (List Char)
  | [] => []
  | character :: rest =>
    if character = '\n' then [] :: splitLines rest
    else if character = '\r' ∧ rest.head? = some '\n' then splitLines rest
    else prepend character (splitLines rest)

def lines (text : String) : List String :=
  (splitLines text.toList).map String.ofList

end StandIn.Text
