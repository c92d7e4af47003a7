import StandIn.Number.Range
import StandIn.Number.Shortest
import StandIn.Settings
import StandIn.Text.Utf8
import StandIn.Toml.Value

/-!
Settings from a TOML document. The document has a section for the connection, and may have one for
the heartbeat and one for the disconnect; what those two leave out has a default. A section is a
table, or an array with its values in order. How a text is read into a document is not decided here:
the reader is a parameter.
-/

set_option autoImplicit false

namespace StandIn.Settings

open Toml (Value Entries)

abbrev Shaped := Except ShapeFault

/-- How a fault text names a value of the wrong type. -/
def found : Value → String
  | .string text => "string " ++ Text.quoted text
  | .integer number => "integer `" ++ Text.ofInt number ++ "`"
  | .float number => "floating point `" ++ number.text ++ "`"
  | .boolean truth => "boolean `" ++ (if truth then "true" else "false") ++ "`"
  | .moment => "map"
  | .array _ => "sequence"
  | .table _ => "map"

def asText : Value → Shaped String
  | .string text => .ok text
  | other => .error (.wrongType (found other) "a string")

def asNumber (width : Width) : Value → Shaped Nat
  | .integer number =>
    if 0 ≤ number ∧ number < width.bound then .ok number.toNat
    else .error (.outOfRange number width.text)
  | other => .error (.wrongType (found other) width.text)

def asPort (value : Value) : Shaped Port :=
  (asNumber .sixteen value).map UInt16.ofNat

/-- The key by which a date or time shows where a table is wanted. -/
def momentKey : String := "$__toml_private_datetime"

/-- A section as entries: those of a table, or the items of an array by the known keys. -/
structure Section where
  entries : Entries
  /-- The number of items if the section is an array. -/
  items : Option Nat

def asSection (wanted : String) (known : List String) : Value → Shaped Section
  | .table entries => .ok ⟨entries, none⟩
  | .array items => .ok ⟨known.zip items, some items.length⟩
  | .moment => .ok ⟨[(momentKey, .moment)], none⟩
  | other => .error (.wrongType (found other) ("struct " ++ wanted))

/-- Takes the entries in order into what is known so far. -/
def collect {Partial : Type} (take : Partial → String → Value → Shaped Partial) :
    Partial → Entries → Shaped Partial
  | known, [] => .ok known
  | known, (key, value) :: rest =>
    match take known key value with
    | .error fault => .error fault
    | .ok more => collect take more rest

def required {Item : Type} (key : String) : Option Item → Shaped Item
  | some item => .ok item
  | none => .error (.missing key)

structure ConnectionDraft where
  host : Option String := none
  peerPort : Option Port := none
  listenPort : Option Port := none

def connectionKeys : List String := ["dgi-hostname", "dgi-port", "listen-port"]

def takeConnection (known : ConnectionDraft) (key : String) (value : Value) :
    Shaped ConnectionDraft :=
  match key with
  | "dgi-hostname" => (asText value).map fun text => { known with host := some text }
  | "dgi-port" => (asPort value).map fun port => { known with peerPort := some port }
  | "listen-port" => (asPort value).map fun port => { known with listenPort := some port }
  | _ => .error (.unknown key connectionKeys)

def connection (value : Value) : Shaped Endpoint := do
  let parts ← asSection "ConnectionConfig" connectionKeys value
  let draft ← collect takeConnection {} parts.entries
  match parts.items with
  | some count =>
    if count < 3 then throw (.tooShort count "struct ConnectionConfig with 3 elements")
  | none => pure ()
  let host ← required "dgi-hostname" draft.host
  let peerPort ← required "dgi-port" draft.peerPort
  let listenPort ← required "listen-port" draft.listenPort
  return ⟨host, peerPort, listenPort⟩

def heartbeatKeys : List String := ["hold-ms", "rest-ms", "connect-timeout-ms"]

def takeHeartbeat (known : HeartbeatTiming) (key : String) (value : Value) :
    Shaped HeartbeatTiming :=
  match key with
  | "hold-ms" => (asNumber .sixtyFour value).map fun number => { known with hold := number }
  | "rest-ms" => (asNumber .sixtyFour value).map fun number => { known with rest := number }
  | "connect-timeout-ms" =>
    (asNumber .sixtyFour value).map fun number => { known with connectTimeout := number }
  | _ => .error (.unknown key heartbeatKeys)

def heartbeat (value : Value) : Shaped HeartbeatTiming := do
  let parts ← asSection "HeartbeatConfig" heartbeatKeys value
  collect takeHeartbeat {} parts.entries

def disconnectKeys : List String := ["max-attempts", "backoff-ms"]

/-- No attempts at all stand for attempts without end. -/
def attemptBound (number : Nat) : Option UInt32 :=
  if number = 0 then none else some (UInt32.ofNat number)

def takeDisconnect (known : RetryPolicy) (key : String) (value : Value) : Shaped RetryPolicy :=
  match key with
  | "max-attempts" =>
    (asNumber .thirtyTwo value).map fun number => { known with maxAttempts := attemptBound number }
  | "backoff-ms" =>
    (asNumber .sixtyFour value).map fun number => { known with backoffMilliseconds := number }
  | _ => .error (.unknown key disconnectKeys)

def disconnect (value : Value) : Shaped RetryPolicy := do
  let parts ← asSection "DisconnectConfig" disconnectKeys value
  collect takeDisconnect {} parts.entries

structure SettingsDraft where
  endpoint : Option Endpoint := none
  timing : HeartbeatTiming := {}
  retry : RetryPolicy := {}

def sectionKeys : List String := ["connection", "heartbeat", "disconnect"]

def takeSection (known : SettingsDraft) (key : String) (value : Value) : Shaped SettingsDraft :=
  match key with
  | "connection" => (connection value).map fun endpoint => { known with endpoint := some endpoint }
  | "heartbeat" => (heartbeat value).map fun timing => { known with timing := timing }
  | "disconnect" => (disconnect value).map fun retry => { known with retry := retry }
  | _ => .error (.unknown key sectionKeys)

/-- The settings in a document, whether a controller can work with them or not. -/
def ofEntries (entries : Entries) : Shaped Settings := do
  let draft ← collect takeSection {} entries
  let endpoint ← required "connection" draft.endpoint
  return ⟨endpoint, draft.timing, draft.retry⟩

def checked (settings : Settings) : Except SettingsFault Settings :=
  if Text.allBlank settings.endpoint.peerHost then .error .emptyHost
  else if settings.timing.connectTimeout = 0 then .error .zeroTimeout
  else .ok settings

def ofDocument (entries : Entries) : Except SettingsFault Settings :=
  match ofEntries entries with
  | .error fault => .error (.shape fault)
  | .ok settings => settings.checked

/-- The settings in a text, given a reader of documents. -/
def ofText (readToml : String → Option Entries) (text : String) : Except SettingsFault Settings :=
  match readToml text with
  | none => .error .notToml
  | some entries => ofDocument entries

def fileText (contents : Except FileFault (List UInt8)) : Except FileFault String :=
  match contents with
  | .error fault => .error fault
  | .ok bytes =>
    match Text.decode? bytes with
    | some text => .ok text
    | none => .error .notText

def ofFile (readToml : String → Option Entries) (name : String)
    (contents : Except FileFault (List UInt8)) : Except SettingsFault Settings :=
  match fileText contents with
  | .error fault => .error (.unreadable name fault)
  | .ok text => ofText readToml text

end StandIn.Settings
