import StandIn.Text.Hidden

/-!
A text in double quotes, shown so that every character can be told apart. The quote, the backslash
and five controls have short escapes, a hidden character is shown by its code in braces, and all
else stands for itself.
-/

set_option autoImplicit false

namespace StandIn.Text

/-- The shortest lower-case hexadecimal form of a code point, in braces. -/
def codeEscape (character : Char) : List Char :=
  ['\\', 'u', '{'] ++ Nat.toDigits 16 character.toNat ++ ['}']

def quotedChar (character : Char) : List Char :=
  match character with
  | '\x00' => ['\\', '0']
  | '\t' => ['\\', 't']
  | '\n' => ['\\', 'n']
  | '\r' => ['\\', 'r']
  | '"' => ['\\', '"']
  | '\\' => ['\\', '\\']
  | other => if isHidden other then codeEscape other else [other]

def quoted (text : String) : String :=
  String.ofList ('"' :: text.toList.flatMap quotedChar ++ ['"'])

end StandIn.Text
