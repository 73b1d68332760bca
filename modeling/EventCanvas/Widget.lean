import EventCanvas.Graph
import EventCanvas.Value.Copy

/-!
# The canvas widget's nodes and edges

The widget draws each component with a renderer of its own and keeps the kind of
component inside the node's data.  It also decorates nodes and edges with state
of its own, which is carried along as extra fields and never stored.

`Graph.toWidget?` gives the widget's view of a graph and `Graph.ofWidget` rebuilds
a graph from it.
-/

namespace EventCanvas

/-- A node as the widget holds it. -/
structure WidgetNode where
  id : String
  renderer : String
  position : Position
  data : Fields
  extra : Fields

/-- An edge as the widget holds it. -/
structure WidgetEdge where
  id : String
  source : String
  target : String
  kind : String
  sourceHandle : Option String
  targetHandle : Option String
  extra : Fields

/-- The fields of a value under other names than the given ones. -/
def Value.extraFields (v : Value) (names : List String) : Fields :=
  v.fields.filter fun e => !names.contains e.1

namespace WidgetNode

/-- The node as a typed value. -/
def toValue (n : WidgetNode) : Value :=
  .typed .widgetNode
    ([("id", .text n.id), ("type", .text n.renderer), ("position", n.position.toValue),
      ("data", .object n.data)] ++ n.extra)

/-- Reads a node of the widget. -/
def read (v : Value) : Reading WidgetNode :=
  Reading.shaped .widgetNode v fun v =>
    (fun id renderer position data =>
      ⟨id, renderer, position, data, v.extraFields ["id", "type", "position", "data"]⟩) <$>
      Reading.field v "id" Reading.text <*> Reading.fieldD v ["type"] "default" Reading.text <*>
      Reading.field v "position" Position.read <*> Reading.fieldD v ["data"] [] Reading.table

/-- The ending of a renderer's name. -/
def rendererSuffix : List Char := "Node".toList

/-- The renderer of a kind of component, by name; there is a general one for other names. -/
def rendererFor (name : Value) : String :=
  match Component.ofValue? name with
  | some c => c.name ++ String.ofList rendererSuffix
  | none => "default"

/-- The component that a renderer's name belongs to. -/
def componentOfRenderer? (renderer : String) : Option Component :=
  let cs := renderer.toList
  if rendererSuffix.isSuffixOf cs then
    Component.ofName? (String.ofList (cs.take (cs.length - rendererSuffix.length)))
  else none

/-- The component of a node: by its data, else by its renderer, else a button. -/
def component (n : WidgetNode) : Component :=
  match (Entries.lookup "componentType" n.data).bind Component.ofValue? with
  | some c => c
  | none => (componentOfRenderer? n.renderer).getD .button

/-- The widget's node for a node of the graph, given the data in stored form. -/
def ofNode (n : Node) (data : Fields) : WidgetNode :=
  { id := n.id
    renderer := rendererFor (.text n.component.name)
    position := n.position
    data := Entries.put "componentType" (.text n.component.name) data
    extra := [] }

/-- The widget's node for a node of the graph, if the node's data has a stored form. -/
def ofNode? (n : Node) : Except Fault WidgetNode := do
  let data ← n.data.toValue.flatten? .innerCompact
  return ofNode n data.fields

/-- A field of the widget's data, null if it is absent. -/
def datum (n : WidgetNode) (name : String) : Value := (Entries.lookup name n.data).getD .null

/-- The label, where what counts as false is no label. -/
def label (n : WidgetNode) : Reading String :=
  let v := n.datum "label"
  if v.truthy then Reading.text v else .ok ""

/-- The table and the row that the data gives for the properties and the events. -/
def parts (n : WidgetNode) : Except Fault (Table × List Value) := do
  let props := n.datum "props"
  let events := n.datum "events"
  let table ← if props.truthy then props.toTable? else pure []
  let row ← if events.truthy then events.items? else pure []
  pure (table, row)

/-- The data of the graph's node. -/
def nodeData (n : WidgetNode) (props : Table) (events : List Value) : Reading NodeData :=
  (fun label props events => ⟨label, some props, some events⟩) <$>
    Reading.under (.name "label") n.label <*>
    Reading.under (.name "props") (Reading.namedTable props) <*>
    Reading.under (.name "events") (Reading.itemsFrom Handler.read 0 events)

/-- The node of the graph for a node of the widget. -/
def toNode (n : WidgetNode) : Except Fault Node := do
  let (props, events) ← n.parts
  match n.nodeData props events with
  | .ok d => pure ⟨n.id, n.component, n.position, d⟩
  | .bad issues => throw (.invalid issues)

/-- The node of the graph for a payload of the widget. -/
def nodeOf (v : Value) : Except Fault Node :=
  match read v with
  | .ok n => n.toNode
  | .bad issues => .error (.invalid issues)

end WidgetNode

namespace WidgetEdge

/-- The edge as a typed value. -/
def toValue (e : WidgetEdge) : Value :=
  .typed .widgetEdge
    ([("id", .text e.id), ("source", .text e.source), ("target", .text e.target),
      ("type", .text e.kind), ("source_handle", .ofText? e.sourceHandle),
      ("target_handle", .ofText? e.targetHandle)] ++ e.extra)

/-- The names under which a handle may be given. -/
def sourceHandleNames : List String := ["sourceHandle", "source_handle"]

/-- The names under which a handle may be given. -/
def targetHandleNames : List String := ["targetHandle", "target_handle"]

/-- The fields that are read as parts of the edge. -/
def ownNames (v : Value) : List String :=
  ["id", "source", "target", "type"] ++
    ((Reading.present? v sourceHandleNames).map (·.1)).toList ++
    ((Reading.present? v targetHandleNames).map (·.1)).toList

/-- Reads an edge of the widget. -/
def read (v : Value) : Reading WidgetEdge :=
  Reading.shaped .widgetEdge v fun v =>
    (fun id source target kind sourceHandle targetHandle =>
      ⟨id, source, target, kind, sourceHandle, targetHandle, v.extraFields (ownNames v)⟩) <$>
      Reading.field v "id" Reading.text <*> Reading.field v "source" Reading.text <*>
      Reading.field v "target" Reading.text <*> Reading.fieldD v ["type"] "default" Reading.text <*>
      Reading.fieldD v sourceHandleNames none (Reading.optional Reading.text) <*>
      Reading.fieldD v targetHandleNames none (Reading.optional Reading.text)

/-- The widget's edge for an edge of the graph. -/
def ofEdge (e : Edge) : WidgetEdge :=
  { id := e.id, source := e.source, target := e.target
    kind := match e.kind with
      | none => "default"
      | some k => if k = "" then "default" else k
    sourceHandle := none, targetHandle := none, extra := [] }

/-- The edge of the graph for an edge of the widget. -/
def toEdge (e : WidgetEdge) : Edge := ⟨e.id, e.source, e.target, some e.kind⟩

/-- The edge of the graph for a payload of the widget. -/
def edgeOf (v : Value) : Except Fault Edge :=
  match read v with
  | .ok e => .ok e.toEdge
  | .bad issues => .error (.invalid issues)

end WidgetEdge

namespace Graph

/-- The widget's view of a graph, if the nodes' data has a stored form. -/
def toWidget? (g : Graph) : Except Fault (List WidgetNode × List WidgetEdge) := do
  let nodes ← g.nodes.mapM WidgetNode.ofNode?
  return (nodes, g.edges.map WidgetEdge.ofEdge)

/-- A copy of the settings of the base, or the initial settings if there is none. -/
def baseSettings (base : Option Graph) : Except Fault Settings :=
  match base with
  | some g => copied g.settings g.settings.toValue.copyFault?
  | none => .ok Settings.initial

/-- Rebuilds a graph from the widget's view, with the settings of the base, which are copied before
anything is read. -/
def ofWidget (nodes edges : List Value) (base : Option Graph) : Except Fault Graph := do
  let settings ← baseSettings base
  let nodes ← nodes.mapM WidgetNode.nodeOf
  let edges ← edges.mapM WidgetEdge.edgeOf
  match ofParts nodes edges settings with
  | .ok g => pure g
  | .bad issues => throw (.invalid issues)

end Graph

end EventCanvas
