import EventCanvas.Entries
import EventCanvas.Identifier
import EventCanvas.Instant
import EventCanvas.Number.Double

/-!
# Dynamic values

What variables, runtime records, event data and stored payloads are made of.
Besides the values of a data format there are three that a host may hand over:
a `tuple`, a `record` (fields without being a table), and a `typed` value, an
instance of one of the declared shapes with its fields.  An `instant` or an
`identifier` occurs inside typed values.

`fieldOf` and `hasField` read a field from whatever holds fields; everything
that runs events goes through them and so does not care how a record is held.
-/

namespace EventCanvas

/-- The declared shapes of which there are typed values. -/
inductive Shape where
  | action
  | setText
  | setVariable
  | showAlert
  | handler
  | position
  | nodeData
  | node
  | edge
  | settings
  | graph
  | project
  | projectDraft
  | projectPatch
  | widgetNode
  | widgetEdge
  | historyEntry
  | snapshot
  | diagnostic
deriving DecidableEq, Inhabited

/-- The name of a shape in messages. -/
def Shape.name : Shape → String
  | .action => "ActionBase"
  | .setText => "SetTextAction"
  | .setVariable => "SetVariableAction"
  | .showAlert => "ShowAlertAction"
  | .handler => "NodeEvent"
  | .position => "Position"
  | .nodeData => "NodeData"
  | .node => "FlowNode"
  | .edge => "FlowEdge"
  | .settings => "ProjectSettings"
  | .graph => "ProjectData"
  | .project => "Project"
  | .projectDraft => "CreateProject"
  | .projectPatch => "UpdateProject"
  | .widgetNode => "CanvasNode"
  | .widgetEdge => "CanvasEdge"
  | .historyEntry => "HistoryEntry"
  | .snapshot => "PreviewSnapshot"
  | .diagnostic => "Diagnostic"

/-- Actions never change once made; values of the other shapes may. -/
def Shape.isFrozen : Shape → Bool
  | .action | .setText | .setVariable | .showAlert => true
  | _ => false

/-- A dynamic value. -/
inductive Value where
  | null
  | bool (b : Bool)
  | int (n : Int)
  | float (d : Double)
  | text (s : String)
  | instant (t : Instant)
  | identifier (u : Identifier)
  | list (items : List Value)
  | tuple (items : List Value)
  | object (fields : List (String × Value))
  | record (fields : List (String × Value))
  | typed (shape : Shape) (fields : List (String × Value))
deriving Inhabited

/-- Named values in order. -/
abbrev Fields := Entries String Value

namespace Value

/-- The name of the kind of a value in messages. -/
def kindName : Value → String
  | null => "NoneType"
  | bool _ => "bool"
  | int _ => "int"
  | float _ => "float"
  | text _ => "str"
  | instant _ => "datetime"
  | identifier _ => "UUID"
  | list _ => "list"
  | tuple _ => "tuple"
  | object _ => "dict"
  | record _ => "SimpleNamespace"
  | typed s _ => s.name

/-- The name of the kind of a value where it is told with its module. -/
def fullKindName : Value → String
  | record _ => "types.SimpleNamespace"
  | v => v.kindName

/-- A value counts as true unless it is null, false, a zero, or empty. -/
def truthy : Value → Bool
  | null => false
  | bool b => b
  | int n => n != 0
  | float d => !d.isZero
  | text s => s != ""
  | list xs | tuple xs => !xs.isEmpty
  | object fs => !fs.isEmpty
  | instant _ | identifier _ | record _ | typed .. => true

/-- Whether a value is null. -/
def isNull : Value → Bool
  | null => true
  | _ => false

/-- A text or null. -/
def ofText? : Option String → Value
  | none => null
  | some s => text s

/-- The text of a value that is one. -/
def text? : Value → Option String
  | text s => some s
  | _ => none

/-- The fields of a value that holds any: a table, a record or a typed value. -/
def fields : Value → Fields
  | object fs | record fs | typed _ fs => fs
  | _ => []

/-- The fields of a value as pairs of name and value. -/
def fieldPairs (v : Value) : List Value := v.fields.map fun e => tuple [text e.1, e.2]

/-- The field of a value, null if there is none. -/
def fieldOf (v : Value) (name : String) : Value :=
  (Entries.lookup name v.fields).getD null

/-- Whether a value has a field. -/
def hasField (v : Value) (name : String) : Bool := Entries.has name v.fields

/-! ## Equality

`equal` is the equality that tables and lists use: numbers are compared by
value whatever their kind, tables without regard to order. -/

/-- A number as an integer, if it is one: truth values count as 0 and 1. -/
def integer? : Value → Option Int
  | bool b => some (if b then 1 else 0)
  | int n => some n
  | float d => d.toInt?
  | _ => none

mutual
/-- Equality of values. -/
def equal : Value → Value → Bool
  | null, null => true
  | bool a, w => w.integer? == some (if a then 1 else 0)
  | int a, w => w.integer? == some a
  | float a, float b => a.equal b
  | float a, bool b => a.toInt? == some (if b then 1 else 0)
  | float a, int b => a.toInt? == some b
  | text a, text b => a == b
  | instant a, instant b => a.same b
  | identifier a, identifier b => a == b
  | list a, list b => equalItems a b
  | tuple a, tuple b => equalItems a b
  | object a, object b => a.length == b.length && equalFields a b
  | record a, record b => a.length == b.length && equalFields a b
  | typed s a, typed t b => s == t && a.length == b.length && equalFields a b
  | _, _ => false

/-- Equality of two rows of values, item by item. -/
def equalItems : List Value → List Value → Bool
  | [], [] => true
  | a :: as, b :: bs => equal a b && equalItems as bs
  | _, _ => false

/-- Whether each field of the first table has an equal one of the same name in the second. -/
def equalFields : List (String × Value) → List (String × Value) → Bool
  | [], _ => true
  | (k, a) :: as, bs =>
    (match Entries.lookup k bs with
      | some b => equal a b
      | none => false) && equalFields as bs
end

instance : BEq Value := ⟨equal⟩

/-! ## Keys -/

mutual
/-- Why a value cannot be the key of a table: the name of the kind that is in the way. -/
def keyFault? : Value → Option String
  | list _ => some "list"
  | object _ => some "dict"
  | record _ => some "types.SimpleNamespace"
  | typed s _ => if s.isFrozen then none else some s.name
  | tuple xs => keyFaults? xs
  | _ => none

/-- The first item that cannot be part of a key. -/
def keyFaults? : List Value → Option String
  | [] => none
  | x :: xs =>
    match keyFault? x with
    | some name => some name
    | none => keyFaults? xs
end

end Value

/-- A table whose keys are values, as a host may hand it over. -/
abbrev Table := Entries Value Value

/-- The table of named values. -/
def Table.ofFields (fs : Fields) : Table := fs.map fun e => (.text e.1, e.2)

end EventCanvas
