import EventCanvas.Command.Job
import EventCanvas.Preview.Harness
import EventCanvas.Trigger

/-!
# Previews on the command line

Triggers are run one after the other against a graph in the harness; then what
happened is printed.  The session is closed in the end even if a trigger cannot
be read.
-/

namespace EventCanvas.Preview

/-- A part of a preview. -/
abbrev Session (m : Type → Type) (α : Type) : Type := ExceptT Stop (StateT (World Harness) m) α

variable {m : Type → Type} [Monad m] [Shell m] {α : Type}

/-- Does something in a shell. -/
def inShell (x : m α) : Session m α := ExceptT.lift (StateT.lift x)

/-- Does something in the world of the harness, and reports what that logs. -/
def act (threshold : Nat) (x : Act Harness α) : Session m α := do
  let before ← get
  let (result, after) := x.run before
  set after
  inShell (Job.report threshold (after.log.drop before.log.length))
  match result with
  | .ok a => return a
  | .error f => throw (.fault f)

/-- The event data of a trigger: the value typed, if there is one. -/
def dataOf (t : Trigger) : Value :=
  match t.value with
  | none => .null
  | some v => .object [("value", .text v)]

/-- Runs a written trigger. -/
def fire (command : Grammar) (threshold : Nat) (spec : String) : Session m Unit := do
  match Trigger.ofText? spec with
  | none => throw (.misuse command (.badTrigger spec))
  | some t =>
    let matched ← act threshold (Harness.trigger (.text t.node) (.text t.event) (dataOf t))
    inShell (Shell.say
      ("→ " ++ t.node ++ ":" ++ t.event ++ " ran " ++ toString matched ++ " event(s)"))

/-- A table as a payload. -/
def tableValue (t : Table) : Value := .object (t.map fun e => (e.1.message, e.2))

/-- The node values of the engine; none if there is no engine. -/
def nodeValues : Act Harness Table := do
  match ← Slot.live with
  | none => return []
  | some id => Engine.nodeValues id

/-- The stored form of a history. -/
def historyValue (entries : List HistoryEntry) : Except Fault Value :=
  Value.list <$> entries.mapM fun e => e.toValue.flatten? .inner

/-- Prints what happened. -/
def summarize (threshold : Nat) : Session m Unit := do
  let (recorder, tally) := (← get).host
  tally.alerts.forM fun a => inShell (Shell.say ("alert: " ++ a.message))
  tally.diagnostics.forM fun d => inShell (Shell.complain ("skipped: " ++ d.message))
  let vars ← act threshold Harness.vars
  let values ← act threshold nodeValues
  match historyValue recorder.history with
  | .error f => throw (.fault f)
  | .ok history =>
    inShell (Shell.say (Json.pretty (.object
      [("variables", tableValue vars), ("nodeValues", tableValue values),
        ("history", history)])))

/-- Runs triggers, prints what happened, and closes the session whatever comes of that. -/
def session (command : Grammar) (threshold : Nat) (triggers : List String) : Session m Unit := do
  let body : Session m Unit := do
    triggers.forM (fire command threshold)
    summarize threshold
  let result ← ExceptT.lift (ExceptT.run body)
  act threshold Harness.close
  match result with
  | .ok () => return ()
  | .error stop => throw stop

/-- Previews a graph. -/
def run (command : Grammar) (threshold : Nat) (settings : EngineSettings) (g : Graph)
    (triggers : List String) : Job m Unit := do
  let world ← Job.ofExcept (Harness.start g settings "preview" (← ExceptT.lift Shell.clock))
  ExceptT.lift (Job.report threshold world.log)
  let (result, _) ← ExceptT.lift ((ExceptT.run (session command threshold triggers)).run world)
  match result with
  | .ok () => return ()
  | .error stop => throw stop

end EventCanvas.Preview
