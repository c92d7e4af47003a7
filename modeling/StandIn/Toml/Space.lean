/-!
What stands between the words of a TOML document: blanks, comments and line ends. A line end is a
line feed, alone or after a carriage return.
-/

set_option autoImplicit false

namespace StandIn.Toml

def isSpace (character : Char) : Bool :=
  character = ' ' || character = '\t'

def skipSpace (text : List Char) : List Char :=
  text.dropWhile isSpace

def lineEnd? : List Char → Option (List Char)
  | '\n' :: rest => some rest
  | '\r' :: '\n' :: rest => some rest
  | _ => none

/-- Neither a control character nor DEL, apart from the tab. -/
def isPrinting (character : Char) : Bool :=
  let code := character.toNat
  code == 0x09 || (0x20 ≤ code && code ≤ 0x7E) || 0x80 ≤ code

/-- The rest of a line on which nothing more may stand but a comment. -/
def endLine (text : List Char) : Option (List Char) :=
  let rest := match skipSpace text with
    | '#' :: comment => comment.dropWhile isPrinting
    | other => other
  if rest.isEmpty then some [] else lineEnd? rest

def skipLines (inComment : Bool) : List Char → List Char
  | [] => []
  | character :: rest =>
    if inComment && isPrinting character then skipLines true rest
    else if isSpace character || character = '\n' then skipLines false rest
    else if character = '\r' && rest.head? == some '\n' then skipLines false rest
    else if character = '#' then skipLines true rest
    else character :: rest

end StandIn.Toml
