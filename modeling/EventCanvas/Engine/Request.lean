import EventCanvas.Engine.Context

/-!
# What a host asks

The operations on engines and on the slot of a canvas as data, and what a call
of one of them answers.
-/

namespace EventCanvas

/-- A handle to something that the host wants to be called: whose it is, and which. -/
structure Callback where
  label : String
  key : Nat
deriving DecidableEq, Inhabited

/-- An operation on an engine.  How callbacks are given is a parameter. -/
inductive EngineOp (β : Type) where
  | getVariable (name : Value)
  | setVariable (name value : Value)
  | getNodeValue (node : Value)
  | setNodeValue (node value : Value)
  | setNodeText (node text : Value)
  | showAlert (message : Value)
  | nodeValues
  | evaluate (expression : Value)
  | executeAction (action source : Value)
  | executeEvent (event source data : Value)
  | executeNodeEvents (node kind data : Value)
  | updateContext (changes : List (ContextChange β))
  | dispose
  | debugInfo
  | lifecycle
  | isActive
  | name
  | literal

/-- An operation on the slot.  How callbacks are given is a parameter. -/
inductive SlotOp (β : Type) where
  /-- Installs an engine on a context.  A session block is entered in this way. -/
  | install (context : Context β)
  /-- Installs an engine if the canvas has nodes, and takes the engine out if it has none. -/
  | mount (context : Context β)
  | get
  | reset
  /-- Leaves the session block of an engine. -/
  | leave (engine : Nat)

/-- A call that a host can make. -/
inductive HostOp where
  | engine (id : Nat) (op : EngineOp Callback)
  | slot (op : SlotOp Callback)

/-- What a call of an engine or a slot answers. -/
inductive Reply where
  | nothing
  | value (v : Value)
  | table (t : Table)
  | context (c : Context Callback)
  | engine (id : Option Nat)
  | failed (f : Fault)

end EventCanvas
