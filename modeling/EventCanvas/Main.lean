import EventCanvas.Command.Run
import EventCanvas.Text.Control
import Std.Time.DateTime.Timestamp

/-!
# The program

The command line on a real machine: files, environment variables and streams as
the operating system has them.  The clock stands still while a command runs.
-/

namespace EventCanvas

/-- The present time in milliseconds since 1970. -/
def presentMillis : IO Int := do
  return (← Std.Time.Timestamp.now).toMillisecondsSinceUnixEpoch.val

/-- Splits bytes at zeros. -/
def zeroTerminated (bytes : ByteArray) : List ByteArray :=
  (bytes.toList.foldl
    (fun (rows, row) b => if b = 0 then (rows ++ [row], ByteArray.empty) else (rows, row.push b))
    (([] : List ByteArray), ByteArray.empty)).1

/-- The environment variable that a text of the form `NAME=value` sets. -/
def variableOf? (bytes : ByteArray) : Option (String × String) := do
  let text ← String.fromUTF8? bytes
  match Trigger.splitFirst '=' text.toList with
  | (name, some value) => return (String.ofList name, String.ofList value)
  | (_, none) => none

/-- The environment variables of the process. -/
def processEnvironment : IO (Entries String String) := do
  try
    return (zeroTerminated (← IO.FS.readBinFile "/proc/self/environ")).filterMap variableOf?
  catch _ => return []

/-- Looks at what is under a path. -/
def lookAt (path : String) : IO FileState := do
  try
    return .contents (← IO.FS.readBinFile path)
  catch
    | .inappropriateType .. => return .directory
    | _ => return .missing

/-- Writes a text to the file under a path. -/
def writeTo (path text : String) : IO (Except Fault Unit) := do
  try
    IO.FS.writeFile path text
    return .ok ()
  catch
    | .inappropriateType .. => return .error (.isDirectory path)
    | _ => return .error (.noSuchFile path)

/-- The time in front of a log line. -/
def logStamp (millis : Int) : String :=
  let day := (Instant.ofMillis millis).stamp.map fun c => if c = 'T' then ' ' else c
  String.ofList (day.toList.take 19) ++ " "

/-- Writes a line to a stream.  Control sequences are left to terminals. -/
def writeLine (stream : IO.FS.Stream) (line : String) : IO Unit := do
  stream.putStrLn (if ← stream.isTty then line else Text.withoutControls line)

instance : Shell IO where
  environment := processEnvironment
  look := lookAt
  write := writeTo
  say line := do writeLine (← IO.getStdout) line
  complain line := do writeLine (← IO.getStderr) line
  log r := do IO.eprintln (logStamp (← presentMillis) ++ r.line)
  clock := return Clock.ticking (← presentMillis) 0

end EventCanvas

/-- Runs the command line. -/
def main (words : List String) : IO UInt32 := do
  match ← EventCanvas.Command.run (m := IO) words with
  | .ok code => return code.toUInt32
  | .error f =>
    IO.eprintln ("Error: " ++ f.text)
    return 1
