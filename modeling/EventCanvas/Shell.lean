import EventCanvas.Clock
import EventCanvas.Fault
import EventCanvas.Log

/-!
# The surroundings of a command

What a command finds around it and leaves behind: environment variables, files,
two streams for lines of text, a log and a clock.  Commands are written for any
monad that offers these, so that the same command runs on a real machine and on
a `Machine`, which is a value.
-/

namespace EventCanvas

/-- What is found under a path. -/
inductive FileState where
  | missing
  | directory
  | contents (bytes : ByteArray)
  /-- The text is no path: it holds a character that no path may have. -/
  | noPath

/-- The text in a file. -/
def FileState.text (path : String) : FileState → Except Fault String
  | missing => .error (.noSuchFile path)
  | directory => .error (.isDirectory path)
  | noPath => .error (.wrongValue "embedded null byte")
  | contents bytes =>
    match String.fromUTF8? bytes with
    | some s => .ok s
    | none => .error .badEncoding

/-! ## Paths -/

/-- The parts of a text between its slashes. -/
def splitPath : List Char → List (List Char)
  | [] => [[]]
  | c :: cs =>
    if c = '/' then [] :: splitPath cs
    else
      match splitPath cs with
      | [] => [[c]]
      | p :: ps => (c :: p) :: ps

/-- The parts of a path between its slashes. -/
def pathParts (path : String) : List String := (splitPath path.toList).map String.ofList

/-- Whether a part of a path leads nowhere. -/
def isIdlePart (part : String) : Bool := part = "" || part = "."

/-- Whether a path begins at the root. -/
def isRooted (path : String) : Bool := path.toList.head? == some '/'

/-- A path without the parts that lead nowhere. -/
def plainPath (path : String) : String :=
  let names := "/".intercalate ((pathParts path).filter fun p => !isIdlePart p)
  if isRooted path then "/" ++ names else if names = "" then "." else names

/-! ## Shells -/

/-- A monad in which commands can run. -/
class Shell (m : Type → Type) where
  /-- The environment variables in order. -/
  environment : m (Entries String String)
  /-- Looks at what is under a path. -/
  look : String → m FileState
  /-- Writes a text to the file under a path. -/
  write : String → String → m (Except Fault Unit)
  /-- Writes a line to the output. -/
  say : String → m Unit
  /-- Writes a line to the error output. -/
  complain : String → m Unit
  /-- Writes a record to the log. -/
  log : LogRecord → m Unit
  /-- The clock. -/
  clock : m Clock

end EventCanvas
