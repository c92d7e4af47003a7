import StandIn.Settings
import StandIn.Text.Span

/-!
A directory that holds nothing but plain files, and is the program's working directory. Around it
there is a file system of which only the usual directories and the empty device are known.
-/

set_option autoImplicit false

namespace StandIn.Simulation

abbrev Directory := List (String × List UInt8)

inductive Place where
  | here
  /-- A directory that this one is in. -/
  | above
  | root
  /-- One of the usual directories. -/
  | usual (name : String)

namespace Directory

def parts : List Char → List (List Char)
  | [] => [[]]
  | character :: rest =>
    if character = '/' then [] :: parts rest else Text.prepend character (parts rest)

def isStay (part : List Char) : Bool :=
  part.isEmpty || part = ['.']

/-- The bytes that the longest name takes. -/
def longestName : Nat := 255

/-- The bytes that the longest path takes. -/
def longestPath : Nat := 4095

def usualDirectories : List String :=
  ["bin", "dev", "etc", "home", "lib", "opt", "proc", "root", "run", "sbin", "sys", "tmp", "usr",
    "var"]

/-- What has to follow a file that was found: nothing at all. -/
def endAt (bytes : List UInt8) (rest : List (List Char)) : Except FileFault (List UInt8) :=
  if rest.isEmpty then .ok bytes else .error .notDirectory

def above : Place → Place
  | .here => .above
  | .above => .above
  | .root => .root
  | .usual _ => .root

def walk (directory : Directory) (place : Place) : List (List Char) → Except FileFault (List UInt8)
  | [] => .error .isDirectory
  | part :: rest =>
    if isStay part then walk directory place rest
    else if part = ['.', '.'] then walk directory (above place) rest
    else
      let name := String.ofList part
      if longestName < name.utf8ByteSize then .error .nameTooLong
      else
        match place with
        | .here =>
          match directory.lookup name with
          | some bytes => endAt bytes rest
          | none => .error .notFound
        | .above => .error .notFound
        | .root =>
          if usualDirectories.contains name then walk directory (.usual name) rest
          else .error .notFound
        | .usual parent =>
          if parent = "dev" && name = "null" then endAt [] rest else .error .notFound

def read (directory : Directory) (path : String) : Except FileFault (List UInt8) :=
  let characters := path.toList
  if characters.contains '\x00' then .error .zeroInName
  else if characters.isEmpty then .error .notFound
  else if longestPath < path.utf8ByteSize then .error .nameTooLong
  else
    let start := if characters.head? = some '/' then Place.root else Place.here
    walk directory start (parts characters)

end Directory
end StandIn.Simulation
