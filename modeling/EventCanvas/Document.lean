import EventCanvas.Clock
import EventCanvas.Project
import EventCanvas.Value.Copy

/-!
# Project documents

A `Document` is a project that is open in an editor: its graph, the project row
it came from, and whether it was changed since it was last saved.  Here is what
its steps look up and work out before they write anything.

`freshId` finds the id of a created node.  It reads the clock again as long as
the id is taken, and writes another number behind each further try, so that it
ends whatever the clock shows.
-/

namespace EventCanvas

/-- A project that is open in an editor. -/
structure Document where
  data : Graph
  row : Option Project
  hasUnsavedChanges : Bool

namespace Document

/-- A document that belongs to no project row. -/
def ofGraph (g : Graph) : Document := ⟨g, none, false⟩

/-- A copy of a graph. -/
def copyOf (g : Graph) : Except Fault Graph := copied g g.toValue.copyFault?

/-- The document of a project row, with a copy of the graph of the row. -/
def ofProject (p : Project) : Except Fault Document := do
  return ⟨← copyOf p.data, some p, false⟩

/-! ## Nodes that are there -/

/-- Whether an edge starts or ends at a node. -/
def touches (id : String) (e : Edge) : Bool := e.source == id || e.target == id

/-- The graph without a node and without the edges that touch it. -/
def without (id : String) (g : Graph) : Reading Graph :=
  Graph.ofParts (g.nodes.filter fun n => n.id != id) (g.edges.filter fun e => !touches id e)
    g.settings

/-- The node with the id that a value names. -/
def find (id : Value) (d : Document) : Except Fault Node :=
  match id.text?.bind d.data.node? with
  | some n => .ok n
  | none => .error (.nodeNotFound id)

/-- The fields of a typed value, with some of them changed. -/
def changed (v : Value) (changes : Fields) : Value :=
  .object (Entries.merge v.working.fields changes)

/-- A node with some of its fields changed. -/
def changedNode (n : Node) (changes : Fields) : Except Fault Node := do
  match Node.read (changed n.toValue changes) with
  | .ok m => return m
  | .bad issues => throw (.ofIssues issues)

/-- Puts a node in the place of the first one with an id. -/
def putNode (id : String) (m : Node) : List Node → List Node
  | [] => []
  | n :: ns => if n.id == id then m :: ns else n :: putNode id m ns

/-- A graph with some of its settings changed. -/
def withSettings (changes : Fields) (g : Graph) : Reading Graph :=
  let settings := Settings.read (changed g.settings.toValue changes)
  (settings.under (.name "settings")).andThen fun s => Graph.ofParts g.nodes g.edges s

/-! ## New nodes -/

/-- The label of a new component. -/
def defaultLabel : Component → String
  | .button => "Button"
  | .text => "Text"
  | .input => "Input"

/-- The id of a component made at a time. -/
def timedId (c : Component) (millis : Int) : String := c.name ++ "-" ++ toString millis

/-- The id of a component made at a time, at a further try. -/
def numberedId (c : Component) (millis : Int) (attempt : Nat) : String :=
  timedId c millis ++ "-" ++ toString attempt

/-- Finds an id that is not taken, reading the clock for every try.  As the ids of different tries
differ, as many tries as there are ids taken are enough. -/
def retryId (taken : List String) (c : Component) : Nat → Nat → Clock → String × Clock
  | 0, attempt, clock => (numberedId c clock.millis attempt, clock.next)
  | left + 1, attempt, clock =>
    let id := numberedId c clock.millis attempt
    if taken.contains id then retryId taken c left (attempt + 1) clock.next else (id, clock.next)

/-- The id of a new component: by the time, and numbered if that id is taken. -/
def freshId (taken : List String) (c : Component) (clock : Clock) : String × Clock :=
  let id := timedId c clock.millis
  if taken.contains id then retryId taken c taken.length 1 clock.next else (id, clock.next)

/-- Zero as a coordinate. -/
def origin : Position := ⟨Double.ofRatio false 0 1, Double.ofRatio false 0 1⟩

/-- The place that is given for a new node: two coordinates, or nothing. -/
def placeOf (given : Value) : Except Fault Position := do
  if given.truthy then
    match ← given.items? with
    | [x, y] =>
      let reading := Position.mk <$> Reading.under (.name "x") (Reading.number x) <*>
        Reading.under (.name "y") (Reading.number y)
      match reading with
      | .ok p => return p
      | .bad issues => throw (.invalid issues)
    | _ => throw (.wrongValue "a position has two coordinates")
  else return origin

/-- A new component with nothing but its default label. -/
def newNode (c : Component) (id : String) (p : Position) : Node :=
  ⟨id, c, p, ⟨defaultLabel c, some [], none⟩⟩

/-- The rejection of a kind of component. -/
def unknownKind (kind : Value) : Fault :=
  .invalidProject ["type: unknown node type " ++ kind.literal]

end Document

end EventCanvas
