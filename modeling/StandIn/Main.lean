import StandIn.CommandLine.Terminal
import StandIn.Live.Network

/-!
The program itself: its words come from the command line, its log filter from the environment, its
settings and its script from files, and its peer is on the network.
-/

set_option autoImplicit false

namespace StandIn.Live

def readFile (name : String) : IO (Except FileFault (List UInt8)) := do
  if name.toList.contains '\x00' then return .error .zeroInName
  match ← (IO.FS.readBinFile name).toBaseIO with
  | .ok bytes => return .ok bytes.data.toList
  | .error error =>
    return .error <| match systemNumber error with
      | some 2 => .notFound
      | some 20 => .notDirectory
      | some 21 => .isDirectory
      | some 36 => .nameTooLong
      | _ => .other (toString error)

/-- The time of a log line, in universal time. -/
def timeStamp : IO String := do
  let now ← Std.Time.Timestamp.now
  let time := Std.Time.DateTime.ofTimestampWithZone now Std.Time.TimeZone.UTC
  return time.format "uuuu-MM-dd'T'HH:mm:ss.SSSSSS'Z'"

def tell (filter : LogFilter) (line : Narration) : IO Unit := do
  if filter.shows line then
    let padding := String.ofList (List.replicate (5 - line.level.text.length) ' ')
    IO.println ((← timeStamp) ++ " " ++ padding ++ CommandLine.logText line)

def invoke (words : List String) : IO UInt32 := do
  match CommandLine.Arguments.read words with
  | .error fault =>
    for line in fault.report do
      if fault.isRequest then IO.println line else IO.eprintln line
    return UInt32.ofNat fault.exitCode
  | .ok arguments =>
    let (filter, complaints) := LogFilter.choose (← IO.getEnv "RUST_LOG") arguments.logLevel
    for complaint in complaints do IO.eprintln complaint
    for line in CommandLine.banner do IO.println line
    let config ← readFile arguments.config
    let script ← readFile arguments.script
    let outcome ← match CommandLine.Launch.prepare arguments config script with
      | .error failure => pure (.error failure)
      | .ok launch => launch.traffic.perform (answer (← Sockets.fresh) (tell filter))
    match outcome with
    | .ok () => return 0
    | .error failure =>
      IO.eprintln (CommandLine.failureLine failure)
      return 1

end StandIn.Live

def main (words : List String) : IO UInt32 :=
  StandIn.Live.invoke words
