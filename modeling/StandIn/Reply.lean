import StandIn.Session
import StandIn.Text.Blank
import StandIn.Text.Quoted

/-!
Replies of the peer, told apart by their words. A reply with either port key announces ports, and
each port is the word directly after the first occurrence of its key; any other reply is accepting
if it has the word `Accepted`, else rejecting if it has the word `Rejected`.
-/

set_option autoImplicit false

namespace StandIn

inductive Malformation where
  | notNumeric (word : String)
  | oneKeyOnly (reply : String)
  | unrecognised (reply : String)
deriving DecidableEq

def Malformation.message : Malformation → String
  | notNumeric word => "expected a numeric port, found " ++ Text.quoted word
  | oneKeyOnly reply =>
    "Start message must carry both StatePort and HeartbeatPort: " ++ Text.quoted reply
  | unrecognised reply => "unrecognised reply: " ++ Text.quoted reply

/-- What the peer says. The numbers of a Start reply are not yet known to be ports. -/
inductive Reply where
  | start (statePort heartbeatPort : Int)
  | accepted
  | rejected
  | malformed (cause : Malformation)
deriving DecidableEq

namespace Reply

/-- The word after the first occurrence of the key, empty if the key is the last word. -/
def valueAfter (key : String) : List String → Option String
  | [] => none
  | word :: rest => if word = key then some (rest.headD "") else valueAfter key rest

def leastNumber : Int := -170141183460469231731687303715884105728

def greatestNumber : Int := 170141183460469231731687303715884105727

/-- Numbers are kept in 128 bits with sign; what lies beyond counts as the nearest end, which is no
port either. -/
def clamp (number : Int) : Int :=
  max leastNumber (min greatestNumber number)

def portNumber (word : String) : Except Malformation Int :=
  match Text.integer? word with
  | some number => .ok (clamp number)
  | none => .error (.notNumeric word)

def ofPortWords (stateWord heartbeatWord : String) : Reply :=
  match portNumber stateWord, portNumber heartbeatWord with
  | .ok statePort, .ok heartbeatPort => start statePort heartbeatPort
  | .error cause, _ => malformed cause
  | .ok _, .error cause => malformed cause

/-- The reply with the given words; the whole text is for the fault text only. -/
def ofWords (whole : String) (words : List String) : Reply :=
  match valueAfter "StatePort" words, valueAfter "HeartbeatPort" words with
  | some stateWord, some heartbeatWord => ofPortWords stateWord heartbeatWord
  | some _, none => malformed (.oneKeyOnly whole)
  | none, some _ => malformed (.oneKeyOnly whole)
  | none, none =>
    if "Accepted" ∈ words then accepted
    else if "Rejected" ∈ words then rejected
    else malformed (.unrecognised whole)

def ofText (text : String) : Reply :=
  ofWords text (Text.words text)

end Reply
end StandIn
