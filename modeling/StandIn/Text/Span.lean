/-!
Parts of a text by the bytes that its characters take in UTF-8. A character of which only some bytes
are wanted is taken or left out as a whole.
-/

set_option autoImplicit false

namespace StandIn.Text

/-- The front of a text, of at least so many bytes if there are as many. -/
def takeBytes : Nat → List Char → List Char
  | 0, _ => []
  | _, [] => []
  | count, character :: rest => character :: takeBytes (count - character.utf8Size) rest

def dropBytes : Nat → List Char → List Char
  | 0, text => text
  | _, [] => []
  | count, character :: rest => dropBytes (count - character.utf8Size) rest

end StandIn.Text
