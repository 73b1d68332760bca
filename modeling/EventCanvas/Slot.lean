import EventCanvas.Engine.World

/-!
# The slot of a canvas

A canvas owns at most one live engine.  Installing an engine disposes the one
that was there, so callbacks bound by a canvas that is gone are never started
again.  A session is an engine that is installed on entering a block and
disposed on leaving it, whatever was installed in between.
-/

namespace EventCanvas

namespace Slot

variable {σ : Type}

/-- A record of the slot's log. -/
def logLine (name message : String) : LogRecord :=
  ⟨.info, "session", "Session " ++ name ++ ": " ++ message, false⟩

/-- The engine in the slot, if it is active. -/
def live : Act σ (Option Nat) := do
  let w ← get
  return w.slot.engine.filter fun id => (w.engine id).isActive

/-- Disposes the engine in the slot, if it is active, before another takes its place. -/
def replace : Act σ Unit := do
  match ← live with
  | none => pure ()
  | some id =>
    Act.log (logLine (← get).slot.name "replacing active engine")
    Act.dispose id

/-- Creates an engine and puts it into the slot. -/
def create (context : Context Callback) : Act σ Nat :=
  modifyGet fun w =>
    (w.engines.length,
      { w with
        engines := w.engines ++ [Engine.new context w.slot.settings w.slot.name]
        slot := { w.slot with engine := some w.engines.length }
        history := w.history ++ [.created w.engines.length] })

/-- Installs an engine on a context in place of any other. -/
def install (context : Context Callback) : Act σ Nat := do
  replace
  let id ← create context
  Act.log (logLine (← get).slot.name
    ("engine initialized with " ++ toString context.nodes.length ++ " nodes and " ++
      toString context.vars.length ++ " variables"))
  return id

/-- Takes the engine out of the slot and disposes it. -/
def reset : Act σ Unit := do
  match (← get).slot.engine with
  | none => pure ()
  | some id =>
    Act.dispose id
    modify fun w => { w with slot := { w.slot with engine := none } }
    Act.log (logLine (← get).slot.name "engine reset")

/-- Follows the canvas: there is an engine only while there are nodes. -/
def mount (context : Context Callback) : Act σ (Option Nat) := do
  if context.nodes.isEmpty then
    reset
    return none
  else return some (← install context)

/-- Leaves the session block of an engine. -/
def leave (id : Nat) : Act σ Unit := do
  if (← get).slot.engine = some id then reset else Act.dispose id

/-- Performs an operation on the slot. -/
def perform : SlotOp Callback → Act σ Reply
  | .install context => return .engine (some (← install context))
  | .mount context => return .engine (← mount context)
  | .get => return .engine (← live)
  | .reset => do
    reset
    return .nothing
  | .leave id => do
    leave id
    return .nothing

end Slot

end EventCanvas
