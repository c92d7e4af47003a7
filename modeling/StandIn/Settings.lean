import StandIn.Negotiation
import StandIn.Session
import StandIn.Tcp.Wire
import StandIn.Text.Quoted

/-!
The settings of a controller, and what can be wrong with a settings file: it cannot be read, it is
no TOML document, it has the wrong shape, or it has values that a controller cannot work with.
-/

set_option autoImplicit false

namespace StandIn

structure Settings where
  endpoint : Endpoint
  timing : HeartbeatTiming := {}
  retry : RetryPolicy := {}
deriving DecidableEq

inductive FileFault where
  | notFound
  | isDirectory
  | notDirectory
  | nameTooLong
  | zeroInName
  | notText
  /-- Anything else that the system reports, in its words. -/
  | other (reason : String)
deriving DecidableEq

def FileFault.message : FileFault → String
  | notFound => "No such file or directory (os error 2)"
  | isDirectory => "Is a directory (os error 21)"
  | notDirectory => "Not a directory (os error 20)"
  | nameTooLong => "File name too long (os error 36)"
  | zeroInName => "file name contained an unexpected NUL byte"
  | notText => "stream did not contain valid UTF-8"
  | other reason => reason

/-- What is wrong with the shape of a document; the first fault in document order counts, and a
missing entry only if there is no other. -/
inductive ShapeFault where
  | missing (key : String)
  | unknown (key : String) (known : List String)
  | wrongType (found wanted : String)
  | outOfRange (number : Int) (wanted : String)
  | tooShort (count : Nat) (wanted : String)
deriving DecidableEq

namespace ShapeFault

def listed (known : List String) : String :=
  String.intercalate ", " (known.map fun key => "`" ++ key ++ "`")

/-- Two keys are told as alternatives, any other number as a list. -/
def expectation : List String → String
  | [first, second] => "`" ++ first ++ "` or `" ++ second ++ "`"
  | known => "one of " ++ listed known

def message : ShapeFault → String
  | missing key => "missing field `" ++ key ++ "`"
  | unknown key known => "unknown field `" ++ key ++ "`, expected " ++ expectation known
  | wrongType found wanted => "invalid type: " ++ found ++ ", expected " ++ wanted
  | outOfRange number wanted =>
    "invalid value: integer `" ++ Text.ofInt number ++ "`, expected " ++ wanted
  | tooShort count wanted => "invalid length " ++ Text.ofNat count ++ ", expected " ++ wanted

end ShapeFault

inductive SettingsFault where
  | unreadable (name : String) (fault : FileFault)
  | notToml
  | shape (fault : ShapeFault)
  | emptyHost
  | zeroTimeout
deriving DecidableEq

namespace SettingsFault

def reason : SettingsFault → String
  | unreadable name fault => "cannot read " ++ name ++ ": " ++ fault.message
  | notToml => "not a TOML document"
  | shape fault => fault.message
  | emptyHost => "dgi-hostname must not be empty"
  | zeroTimeout => "heartbeat connect-timeout-ms must be positive"

def toFault (fault : SettingsFault) : Fault :=
  .configuration fault.reason

end SettingsFault
end StandIn
