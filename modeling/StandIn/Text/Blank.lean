/-!
Blank characters and the words between them. A character is blank when it has the Unicode property
White_Space; a word is a longest run of characters that are not blank.
-/

set_option autoImplicit false

namespace StandIn.Text

/-- The Unicode property White_Space. -/
def isBlank (character : Char) : Bool :=
  let code := character.toNat
  (0x09 ≤ code && code ≤ 0x0D) || code == 0x20 || code == 0x85 || code == 0xA0 || code == 0x1680 ||
    (0x2000 ≤ code && code ≤ 0x200A) || code == 0x2028 || code == 0x2029 || code == 0x202F ||
    code == 0x205F || code == 0x3000

def allBlank (text : String) : Bool :=
  text.toList.all isBlank

def trimmed (text : List Char) : List Char :=
  ((text.dropWhile isBlank).reverse.dropWhile isBlank).reverse

/-- Puts a character in front of the first of some pieces of text, or makes it a piece. -/
def prepend (character : Char) : List (List Char) → List (List Char)
  | [] => [[character]]
  | piece :: others => (character :: piece) :: others

def startsWord : List Char → Bool
  | [] => false
  | character :: _ => !isBlank character

def splitWords : List Char → List (List Char)
  | [] => []
  | character :: rest =>
    if isBlank character then splitWords rest
    else if startsWord rest then prepend character (splitWords rest)
    else [character] :: splitWords rest

def words (text : String) : List String :=
  (splitWords text.toList).map String.ofList

end StandIn.Text
