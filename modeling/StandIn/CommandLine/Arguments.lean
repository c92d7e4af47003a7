/-!
The words of the command line. An option may be given once, with its value attached or in the next
word; a value in a word of its own may not begin with a hyphen, unless it is a lone hyphen. A word
that cannot be understood is reported before a fault in the option before it, and any other fault
of that option before whatever comes after.
-/

set_option autoImplicit false

namespace StandIn.CommandLine

structure Arguments where
  config : String := "controller.cfg"
  script : String := "dsp-script.txt"
  logLevel : String := "info"
  disconnectOnExit : Bool := false
deriving DecidableEq

inductive UsageFault where
  | unknownArgument (word : String)
  /-- A value is missing, or empty where it may not be. -/
  | invalidValue
  /-- An option was given twice. -/
  | repeated
  /-- A value was given to an option that takes none. -/
  | unwantedValue
  /-- The words ask for help only. -/
  | help
  /-- The words ask for the version only. -/
  | version
deriving DecidableEq

inductive Setting where
  | config
  | script
  | logLevel
deriving DecidableEq

inductive Purpose where
  | setting (which : Setting)
  | disconnectOnExit
  | help
  | version
deriving DecidableEq

def ofLongName : String → Option Purpose
  | "config" => some (.setting .config)
  | "script" => some (.setting .script)
  | "log-level" => some (.setting .logLevel)
  | "disconnect-on-exit" => some .disconnectOnExit
  | "help" => some .help
  | "version" => some .version
  | _ => none

def ofShortName : Char → Option Purpose
  | 'c' => some (.setting .config)
  | 's' => some (.setting .script)
  | 'h' => some .help
  | 'V' => some .version
  | _ => none

structure Given where
  config : Option String := none
  script : Option String := none
  logLevel : Option String := none
  disconnectOnExit : Bool := false

namespace Given

def value (given : Given) : Setting → Option String
  | .config => given.config
  | .script => given.script
  | .logLevel => given.logLevel

/-- A file name may not be empty, a log level may. -/
def mayBeEmpty : Setting → Bool
  | .config => false
  | .script => false
  | .logLevel => true

def store (given : Given) (which : Setting) (value : Option String) : Except UsageFault Given :=
  match value with
  | none => .error .invalidValue
  | some text =>
    if (given.value which).isSome then .error .repeated
    else if text.isEmpty && !mayBeEmpty which then .error .invalidValue
    else
      match which with
      | .config => .ok { given with config := some text }
      | .script => .ok { given with script := some text }
      | .logLevel => .ok { given with logLevel := some text }

def raise (given : Given) : Except UsageFault Given :=
  if given.disconnectOnExit then .error .repeated
  else .ok { given with disconnectOnExit := true }

def toArguments (given : Given) : Arguments :=
  let absent : Arguments := {}
  { config := given.config.getD absent.config
    script := given.script.getD absent.script
    logLevel := given.logLevel.getD absent.logLevel
    disconnectOnExit := given.disconnectOnExit }

end Given

/-- An option whose value is awaited, or has come in a word of its own. -/
abbrev Pending := Option (Setting × Option String)

def settle (given : Given) : Pending → Except UsageFault Given
  | none => .ok given
  | some (which, value) => given.store which value

/-- A word as an option with the value attached to it, or as a plain word. -/
inductive Word where
  | escape
  | option (purpose : Option Purpose) (attached : Option String)
  | plain (text : String)

def splitValue (text : List Char) : String × Option String :=
  match text.dropWhile (· ≠ '=') with
  | [] => (String.ofList text, none)
  | _ :: value => (String.ofList (text.takeWhile (· ≠ '=')), some (String.ofList value))

/-- What follows a one-letter option in its word; an equals sign there is not part of the value. -/
def attachedValue : List Char → Option String
  | [] => none
  | '=' :: value => some (String.ofList value)
  | value => some (String.ofList value)

def Word.ofText (text : String) : Word :=
  match text.toList with
  | ['-', '-'] => .escape
  | '-' :: '-' :: rest =>
    let (name, value) := splitValue rest
    .option (ofLongName name) value
  | '-' :: letter :: rest =>
    match ofShortName letter with
    | some (.setting which) => .option (some (.setting which)) (attachedValue rest)
    | other => .option other none
  | _ => .plain text

def readFrom (given : Given) (pending : Pending) : List String → Except UsageFault Arguments
  | [] => (settle given pending).map Given.toArguments
  | text :: rest =>
    match Word.ofText text with
    | .escape =>
      match rest with
      | [] => (settle given pending).map Given.toArguments
      | next :: _ => .error (.unknownArgument next)
    | .option none _ => .error (.unknownArgument text)
    | .option (some (.setting which)) attached =>
      match settle given pending with
      | .error fault => .error fault
      | .ok given =>
        match attached with
        | none => readFrom given (some (which, none)) rest
        | some value =>
          match given.store which (some value) with
          | .error fault => .error fault
          | .ok given => readFrom given none rest
    | .option (some _) (some _) => .error .unwantedValue
    | .option (some purpose) none =>
      match settle given pending with
      | .error fault => .error fault
      | .ok given =>
        match purpose with
        | .help => .error .help
        | .version => .error .version
        | _ =>
          match given.raise with
          | .error fault => .error fault
          | .ok given => readFrom given none rest
    | .plain value =>
      match pending with
      | some (which, none) => readFrom given (some (which, some value)) rest
      | _ => .error (.unknownArgument value)

def Arguments.read (words : List String) : Except UsageFault Arguments :=
  readFrom {} none words

end StandIn.CommandLine
