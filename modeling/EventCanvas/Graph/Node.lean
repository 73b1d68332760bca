import EventCanvas.Graph.Action

/-!
# Nodes and edges

The components placed on a canvas and the connections between them.
-/

namespace EventCanvas

/-- The kinds of component. -/
inductive Component where
  | button
  | text
  | input
deriving DecidableEq, Inhabited

namespace Component

/-- The name of a kind of component. -/
def name : Component → String
  | button => "button"
  | text => "text"
  | input => "input"

/-- The kinds of component by name. -/
def byName : List (String × Component) :=
  [("button", button), ("text", text), ("input", input)]

/-- The kind of component with a name. -/
def ofName? (s : String) : Option Component := Entries.lookup s byName

/-- The kind of component that a value names. -/
def ofValue? : Value → Option Component
  | .text s => ofName? s
  | _ => none

@[simp] theorem ofName?_name (c : Component) : ofName? c.name = some c := by
  cases c <;> decide

end Component

/-- A place on the canvas. -/
structure Position where
  x : Double
  y : Double
deriving DecidableEq, Inhabited

namespace Position

/-- The position as a typed value. -/
def toValue (p : Position) : Value := .typed .position [("x", .float p.x), ("y", .float p.y)]

/-- Reads a position. -/
def read (v : Value) : Reading Position :=
  Reading.shaped .position v fun v =>
    Position.mk <$> Reading.field v "x" Reading.number <*> Reading.field v "y" Reading.number

end Position

/-- What a component shows and what it reacts to. -/
structure NodeData where
  label : String
  props : Option Fields
  events : Option (List Handler)
deriving Inhabited

namespace NodeData

/-- The data of a node as a typed value. -/
def toValue (d : NodeData) : Value :=
  .typed .nodeData
    [("label", .text d.label), ("props", (d.props.map .object).getD .null),
      ("events", (d.events.map fun hs => .list (hs.map Handler.toValue)).getD .null)]

/-- Reads the data of a node. -/
def read (v : Value) : Reading NodeData :=
  Reading.shaped .nodeData v fun v =>
    NodeData.mk <$> Reading.field v "label" Reading.text <*>
      Reading.fieldD v ["props"] none (Reading.optional Reading.table) <*>
      Reading.fieldD v ["events"] none (Reading.optional (Reading.list Handler.read))

/-- The handlers of a node. -/
def handlers (d : NodeData) : List Handler := d.events.getD []

end NodeData

/-- A component on the canvas. -/
structure Node where
  id : String
  component : Component
  position : Position
  data : NodeData
deriving Inhabited

namespace Node

/-- The node as a typed value. -/
def toValue (n : Node) : Value :=
  .typed .node
    [("id", .text n.id), ("type", .text n.component.name), ("position", n.position.toValue),
      ("data", n.data.toValue)]

/-- Reads a node. -/
def read (v : Value) : Reading Node :=
  Reading.shaped .node v fun v =>
    Node.mk <$> Reading.field v "id" Reading.text <*>
      Reading.field v "type" (Reading.oneOf Component.byName) <*>
      Reading.field v "position" Position.read <*> Reading.field v "data" NodeData.read

end Node

/-- A connection between two nodes, which are given by id. -/
structure Edge where
  id : String
  source : String
  target : String
  kind : Option String
deriving DecidableEq, Inhabited

namespace Edge

/-- The edge as a typed value. -/
def toValue (e : Edge) : Value :=
  .typed .edge
    [("id", .text e.id), ("source", .text e.source), ("target", .text e.target),
      ("type", .ofText? e.kind)]

/-- Reads an edge. -/
def read (v : Value) : Reading Edge :=
  Reading.shaped .edge v fun v =>
    Edge.mk <$> Reading.field v "id" Reading.text <*> Reading.field v "source" Reading.text <*>
      Reading.field v "target" Reading.text <*>
      Reading.fieldD v ["type"] none (Reading.optional Reading.text)

end Edge

end EventCanvas
