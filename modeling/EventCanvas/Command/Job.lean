import EventCanvas.Command.Grammar
import EventCanvas.Json.Reader
import EventCanvas.Json.Writer
import EventCanvas.Shell

/-!
# Jobs

A `Job` is a part of a command that runs in a shell and may stop early: with an
exit code, with a misuse of the command line, for help, or with a fault.
-/

namespace EventCanvas

/-- Why a command stops early. -/
inductive Stop where
  | exit (code : Nat)
  | misuse (command : Grammar) (what : Misuse)
  | help (lines : List String)
  | fault (f : Fault)

/-- A part of a command. -/
abbrev Job (m : Type → Type) (α : Type) : Type := ExceptT Stop m α

namespace Job

variable {m : Type → Type} [Monad m] [Shell m] {α : Type}

/-- Writes a line to the output. -/
def say (line : String) : Job m Unit := ExceptT.lift (Shell.say line)

/-- Writes a line to the error output. -/
def complain (line : String) : Job m Unit := ExceptT.lift (Shell.complain line)

/-- Writes the records to the log that are at least as serious as a threshold. -/
def report (threshold : Nat) (records : List LogRecord) : m Unit :=
  records.forM fun r => if threshold ≤ r.level.weight then Shell.log r else pure ()

/-- What there is, or a fault. -/
def ofExcept : Except Fault α → Job m α
  | .ok a => pure a
  | .error f => throw (.fault f)

/-- Writes lines about errors and stops. -/
def giveUp (lines : List String) : Job m α := do
  lines.forM complain
  throw (.exit 1)

/-- Reads the payload in a file. -/
def payload (path : String) : Job m Value := do
  let text ← ofExcept ((← ExceptT.lift (Shell.look path)).text path)
  match Json.read text with
  | .ok v => return v
  | .error .malformed => giveUp ["Error: " ++ path ++ " is not valid JSON: unexpected text"]
  | .error .tooManyDigits => throw (.fault (.wrongValue "an integer has too many digits"))

/-- Writes a payload to a file, if one is named, and else to the output. -/
def deliver (payload : Value) (output : Option String) : Job m Unit := do
  let text := Json.pretty payload
  match output.filter (· != "") with
  | none => say text
  | some path =>
    ofExcept (← ExceptT.lift (Shell.write (plainPath path) (text ++ "\n")))
    say ("✓ Wrote " ++ path)

/-- Runs a job to its exit code.  A misuse and a call for help are answered here. -/
def run (job : Job m Unit) : m (Except Fault Nat) := do
  match ← ExceptT.run job with
  | .ok () => return .ok 0
  | .error (.exit code) => return .ok code
  | .error (.misuse command what) =>
    (command.complaint what).forM Shell.complain
    return .ok 2
  | .error (.help lines) =>
    lines.forM Shell.say
    return .ok 0
  | .error (.fault f) => return .error f

end Job

end EventCanvas
