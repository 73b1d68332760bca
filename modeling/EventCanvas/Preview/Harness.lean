import EventCanvas.Preview.Recorder

/-!
# A host without a canvas

The harness opens a session on a graph and plays its host: it keeps every notice
of the engine, in order, behind a recorder, and can be told to let callbacks
fail.  It is what a preview on the command line runs on.
-/

namespace EventCanvas

/-- What a host was told, by kind, and which of its callbacks fail and how. -/
structure Tally where
  variableChanges : List (Value × Value)
  nodeUpdates : List (Value × Value)
  alerts : List Value
  diagnostics : List Diagnostic
  failing : Entries String Fault

namespace Tally

/-- The tally of a host that was told nothing. -/
def empty : Tally := ⟨[], [], [], [], []⟩

/-- How often something was changed or shown. -/
def total (t : Tally) : Nat := t.variableChanges.length + t.nodeUpdates.length + t.alerts.length

/-- Adds a notice. -/
def add (t : Tally) : Notice → Tally
  | .variableChanged name value =>
    { t with variableChanges := t.variableChanges ++ [(name, value)] }
  | .nodeUpdated id updates => { t with nodeUpdates := t.nodeUpdates ++ [(id, updates)] }
  | .alertShown message => { t with alerts := t.alerts ++ [message] }
  | .diagnosed d => { t with diagnostics := t.diagnostics ++ [d] }

/-- The fault that a notice meets with, if there is one.  Diagnostics meet with none. -/
def faultFor? (t : Tally) : Notice → Option Fault
  | .diagnosed _ => none
  | notice => Entries.lookup notice.hook.name t.failing

/-- The host that keeps a tally. -/
def host : Host Tally where
  react _ notice := do
    Program.update fun t => t.add notice
    match (← Program.state).faultFor? notice with
    | none => return ()
    | some f => Program.fail f

end Tally

/-- The state of the harness besides the engine: the recorder and the tally. -/
abbrev Harness := Recorder × Tally

namespace Harness

/-- The host behind the engine. -/
def host : Host Harness :=
  Recorder.host (Hooks.all (some ⟨"preview", 0⟩)) Tally.host

/-- Callbacks never call the engine, so they do not nest. -/
def depth : Nat := 1

/-- What the engine's hooks are bound to. -/
def hooks : Hooks (Option Callback) := Hooks.all (some ⟨"recorder", 0⟩)

/-- Opens a session on a graph. -/
def start (g : Graph) (settings : EngineSettings) (name : String) (clock : Clock) :
    Except Fault (World Harness) := do
  let recorder ← Recorder.new clock (g.nodeIds.map .text)
  let world := World.initial ⟨name, settings, none⟩ (recorder, Tally.empty)
  return ((Slot.mount (g.context hooks)).run world).2

/-- Triggers an event of a node, if there is an engine; says how many handlers ran. -/
def trigger (node kind data : Value) : Act Harness Nat := do
  match ← Slot.live with
  | none => return 0
  | some id => Engine.executeNodeEvents (host.notify depth) id node kind data

/-- Performs an operation on an engine. -/
def operate (id : Nat) (op : EngineOp Callback) : Act Harness Reply :=
  Engine.perform (host.notify depth) id op

/-- Lets a callback fail from now on. -/
def failCallback (callback : String) (fault : Fault) : Act Harness Unit :=
  modify fun w =>
    { w with
      host := (w.host.1, { w.host.2 with failing := Entries.put callback fault w.host.2.failing }) }

/-- How a callback fails that is not told how. -/
def plainFault (callback : String) : Fault := .failure (callback ++ " failed")

/-- The variables of the engine; none if there is no engine. -/
def vars : Act Harness Table := do
  match ← Slot.live with
  | none => return []
  | some id => return (← Engine.shownContext id).vars

/-- Closes the session. -/
def close : Act Harness Unit := Slot.reset

end Harness

end EventCanvas
