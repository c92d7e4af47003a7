/-!
Characters as bytes. A strict reading refuses every text with an invalid part; a lenient one shows
each longest part that begins like a character and cannot be continued as one by U+FFFD.
-/

set_option autoImplicit false

namespace StandIn.Text

/-- How a multi-byte character begins: how many bytes follow, its leading bits, and the range of
the byte after the first, which excludes surrogates and spellings that are too long or too great. -/
structure Lead where
  following : Nat
  bits : Nat
  least : Nat := 0x80
  greatest : Nat := 0xBF

def lead (byte : Nat) : Option Lead :=
  if 0xC2 ≤ byte ∧ byte ≤ 0xDF then some { following := 1, bits := byte - 0xC0 }
  else if byte = 0xE0 then some { following := 2, bits := 0, least := 0xA0 }
  else if byte = 0xED then some { following := 2, bits := 0xD, greatest := 0x9F }
  else if 0xE1 ≤ byte ∧ byte ≤ 0xEF then some { following := 2, bits := byte - 0xE0 }
  else if byte = 0xF0 then some { following := 3, bits := 0, least := 0x90 }
  else if 0xF1 ≤ byte ∧ byte ≤ 0xF3 then some { following := 3, bits := byte - 0xF0 }
  else if byte = 0xF4 then some { following := 3, bits := 4, greatest := 0x8F }
  else none

/-- A character that has begun: how many bytes are missing, its bits so far, and the range of the
next byte. -/
structure Pending where
  missing : Nat
  bits : Nat
  least : Nat
  greatest : Nat

inductive Opening where
  | whole (character : Char)
  | begins (pending : Pending)
  | invalid

def opening (byte : Nat) : Opening :=
  if byte < 0x80 then .whole (Char.ofNat byte)
  else match lead byte with
    | some found => .begins ⟨found.following, found.bits, found.least, found.greatest⟩
    | none => .invalid

/-- Reads bytes one after the other; nothing stands for an invalid part. -/
def decodeFrom : Option Pending → List UInt8 → List (Option Char)
  | none, [] => []
  | some _, [] => [none]
  | none, byte :: rest =>
    match opening byte.toNat with
    | .whole character => some character :: decodeFrom none rest
    | .begins pending => decodeFrom (some pending) rest
    | .invalid => none :: decodeFrom none rest
  | some pending, byte :: rest =>
    if pending.least ≤ byte.toNat ∧ byte.toNat ≤ pending.greatest then
      let bits := pending.bits * 64 + byte.toNat % 64
      match pending.missing with
      | 0 | 1 => some (Char.ofNat bits) :: decodeFrom none rest
      | missing + 1 => decodeFrom (some ⟨missing, bits, 0x80, 0xBF⟩) rest
    else
      none :: match opening byte.toNat with
        | .whole character => some character :: decodeFrom none rest
        | .begins other => decodeFrom (some other) rest
        | .invalid => none :: decodeFrom none rest

def replacement : Char := Char.ofNat 0xFFFD

/-- The characters of the bytes, with U+FFFD for each invalid part. -/
def decodeLossy (bytes : List UInt8) : String :=
  String.ofList ((decodeFrom none bytes).map fun character => character.getD replacement)

def decode? (bytes : List UInt8) : Option String :=
  ((decodeFrom none bytes).mapM id).map String.ofList

def bytesOf (text : String) : List UInt8 :=
  text.toUTF8.data.toList

end StandIn.Text
