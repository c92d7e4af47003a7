/-!
Written numbers with an optional sign, fraction and exponent, or one of the words for infinity and
for what is not a number.
-/

set_option autoImplicit false

namespace StandIn.Text

def withoutSign : List Char → List Char
  | '-' :: rest => rest
  | '+' :: rest => rest
  | text => text

def isExponent : List Char → Bool
  | [] => true
  | letter :: rest =>
    let digits := withoutSign rest
    (letter = 'e' || letter = 'E') && !digits.isEmpty && digits.all Char.isDigit

/-- Whether a text is digits, perhaps with a point among them, and perhaps an exponent. -/
def isDecimal (text : List Char) : Bool :=
  let whole := text.takeWhile Char.isDigit
  match text.dropWhile Char.isDigit with
  | '.' :: rest =>
    let fraction := rest.takeWhile Char.isDigit
    !(whole ++ fraction).isEmpty && isExponent (rest.dropWhile Char.isDigit)
  | rest => !whole.isEmpty && isExponent rest

def isWrittenNumber (text : List Char) : Bool :=
  let unsigned := withoutSign text
  ["inf", "infinity", "nan"].contains (String.ofList (unsigned.map Char.toLower)) ||
    isDecimal unsigned

end StandIn.Text
