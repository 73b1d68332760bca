import EventCanvas.Engine.World
import EventCanvas.Placeholder
import EventCanvas.Value.Collect
import EventCanvas.Value.Stored

/-!
# Reading and changing an engine directly

The operations with which a host, and the engine itself, reads and changes the
state of an engine.  Each fails on a disposed engine.  Those that change
something tell the host afterwards, through `notify`, which stands for whatever
the host does when it is called.
-/

namespace EventCanvas

/-- What the host does when a callback is started. -/
abbrev Notify (σ : Type) := Callback → Notice → Act σ Unit

namespace Engine

variable {σ : Type}

/-- Fails if an engine was disposed. -/
def requireActive (id : Nat) (operation : String) : Act σ Unit := do
  if !(← Act.engine id).isActive then throw (.disposed operation)

/-- Starts the callback bound to the hook of a notice, if there is one. -/
def tell (notify : Notify σ) (id : Nat) (notice : Notice) : Act σ Unit := do
  match (← Act.engine id).context.hooks.get notice.hook with
  | none => pure ()
  | some callback =>
    Act.observe (.started id callback notice)
    notify callback notice

/-- Changes the context of an engine. -/
def modifyContext (id : Nat) (f : Context Callback → Context Callback) : Act σ Unit :=
  Act.modifyEngine id fun e => { e with context := f e.context }

/-- What is under a key, null if there is nothing. -/
def find (key : Value) (table : Table) : Act σ Value := do
  let key ← Act.ofExcept key.asKey
  return (Entries.lookup key table).getD .null

/-! ## Misfits -/

/-- The fault of asking a value for an operation of tables. -/
def lacks (operation : String) (v : Value) : Fault :=
  .noSuchOperation ("'" ++ v.fullKindName ++ "' object has no attribute '" ++ operation ++ "'")

/-- The fault of writing to a value as to a table. -/
def refusesItems : Value → Fault
  | .list _ => .badIndex .list
  | v => .wrongKind ("'" ++ v.fullKindName ++ "' object does not support item assignment")

/-- Fails if there is a misfit in the place of a table. -/
def requireTable (fault : Value → Fault) : Option Value → Act σ Unit
  | none => pure ()
  | some v => throw (fault v)

/-! ## Variables -/

/-- The value of a variable, null if it has none. -/
def getVariable (id : Nat) (name : Value) : Act σ Value := do
  requireActive id "get_variable"
  requireTable (lacks "get") (← Act.engine id).context.misfits.vars
  find name (← Act.engine id).context.vars

/-- Writes a variable. -/
def setVariable (notify : Notify σ) (id : Nat) (name value : Value) : Act σ Unit := do
  requireActive id "set_variable"
  requireTable refusesItems (← Act.engine id).context.misfits.vars
  let key ← Act.ofExcept name.asKey
  modifyContext id fun c => { c with vars := Entries.put key value c.vars }
  tell notify id (.variableChanged name value)

/-! ## Nodes -/

/-- The fields of a runtime record, however it is held. -/
def recordFields : Value → Except Fault Fields
  | .null => .ok []
  | .object fs => .ok fs
  | .record fs => .ok fs
  | .typed s fs => .ok (Value.typed s fs).working.fields
  | _ => .error .noFields

/-- The runtime record of a node, null if it has none. -/
def recordOf (id : Nat) (node : Value) : Act σ Value := do
  requireTable (lacks "get") (← Act.engine id).context.misfits.nodes
  find node (← Act.engine id).context.nodes

/-- Whether there is a runtime record of a node.  A misfit is looked through for the node. -/
def hasNode (id : Nat) (node : Value) : Act σ Bool := do
  let c := (← Act.engine id).context
  match c.misfits.nodes with
  | some v => Act.ofExcept (v.contains? node)
  | none => do
    let key ← Act.ofExcept node.asKey
    return Entries.has key c.nodes

/-- The runtime value of a node, null if it has none. -/
def getNodeValue (id : Nat) (node : Value) : Act σ Value := do
  requireActive id "get_node_value"
  return (← recordOf id node).fieldOf "value"

/-- Writes one field of a node's record and tells the host. -/
def setField (notify : Notify σ) (id : Nat) (node : Value) (field : String) (value : Value) :
    Act σ Unit := do
  let record ← recordOf id node
  let fields ← Act.ofExcept (recordFields record)
  let record := Value.object (Entries.put field value fields)
  modifyContext id fun c => { c with nodes := Entries.put node record c.nodes }
  tell notify id (.nodeUpdated node (.object [(field, value)]))

/-- Writes the runtime value of a node. -/
def setNodeValue (notify : Notify σ) (id : Nat) (node value : Value) : Act σ Unit := do
  requireActive id "set_node_value"
  setField notify id node "value" value

/-- Writes the label of a node. -/
def setNodeText (notify : Notify σ) (id : Nat) (node text : Value) : Act σ Unit := do
  requireActive id "set_node_text"
  setField notify id node "label" text

/-- The runtime values in a table of records, of the nodes that have one. -/
def valuesOf (nodes : Table) : Table :=
  nodes.filterMap fun e =>
    if e.2.hasField "value" then some (e.1, e.2.fieldOf "value") else none

/-- The runtime values of the nodes that have one. -/
def nodeValues (id : Nat) : Act σ Table := do
  requireActive id "node_values"
  requireTable (lacks "items") (← Act.engine id).context.misfits.nodes
  return valuesOf (← Act.engine id).context.nodes

/-! ## Alerts and texts -/

/-- Asks the host to show a message. -/
def showAlert (notify : Notify σ) (id : Nat) (message : Value) : Act σ Unit := do
  requireActive id "show_alert"
  tell notify id (.alertShown message)

/-- A text with the references in it replaced. -/
def evaluate (id : Nat) (expression : Value) : Act σ String := do
  requireActive id "evaluate_expression"
  let values ← nodeValues id
  let template ← Act.ofExcept (Placeholder.template? expression)
  let c := (← Act.engine id).context
  match c.misfits.vars with
  | none => Act.ofExcept (Placeholder.interpolate template c.vars values)
  | some v => Act.ofExcept (Placeholder.interpolateUpTo (fun s => s = .variable && v.truthy)
      (lacks "get" v) template [] values)

/-- The context of an engine as it is shown. -/
def shownContext (id : Nat) : Act σ (Context Callback) := do
  Act.ofExcept (← Act.engine id).context.shown

/-! ## Lifecycle -/

/-- Releases the context of an engine. -/
def disposeAt (id : Nat) : Act σ Unit := Act.dispose id

end Engine

/-- Replaces parts of the context of an engine; a later change of a part wins.  Nothing is replaced
if one of the changes cannot be made. -/
def Engine.updateContext {σ : Type} (id : Nat) (changes : List (ContextChange Callback)) :
    Act σ Unit := do
  requireActive id "update_context"
  match ContextChange.fault? changes with
  | some f => throw f
  | none => modifyContext id fun c => changes.foldl ContextChange.apply c

end EventCanvas
