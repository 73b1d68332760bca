import EventCanvas.Fault
import EventCanvas.Graph.Node
import EventCanvas.Value.Collect
import EventCanvas.Value.Stored

/-!
# Project graphs

A `Graph` is what a project stores: its nodes, its edges and the settings of its
preview.  `Graph.read` reads one from a payload and rejects repeated node ids;
`Graph.validate` says why a payload is rejected, a line for each reason;
`Graph.stored` is the payload that is written back.
-/

namespace EventCanvas

/-- The look of a preview. -/
inductive Theme where
  | light
  | dark
deriving DecidableEq, Inhabited

namespace Theme

/-- The name of a theme. -/
def name : Theme → String
  | light => "light"
  | dark => "dark"

/-- The themes by name. -/
def byName : List (String × Theme) := [("light", light), ("dark", dark)]

end Theme

/-- The settings of a project's preview, with the first values of its variables. -/
structure Settings where
  theme : Theme
  previewMode : Bool
  vars : Fields
deriving Inhabited

namespace Settings

/-- The settings of a project that has none. -/
def initial : Settings := ⟨.light, false, []⟩

/-- The settings as a typed value. -/
def toValue (s : Settings) : Value :=
  .typed .settings
    [("theme", .text s.theme.name), ("preview_mode", .bool s.previewMode),
      ("variables", .object s.vars)]

/-- Reads settings; what is missing has its first value. -/
def read (v : Value) : Reading Settings :=
  Reading.shaped .settings v fun v =>
    Settings.mk <$> Reading.fieldD v ["theme"] .light (Reading.oneOf Theme.byName) <*>
      Reading.fieldD v ["previewMode", "preview_mode"] false Reading.truth <*>
      Reading.fieldD v ["variables"] [] Reading.table

end Settings

/-- The graph of a project. -/
structure Graph where
  nodes : List Node
  edges : List Edge
  settings : Settings
deriving Inhabited

namespace Graph

/-- The ids of the nodes in order. -/
def nodeIds (g : Graph) : List String := g.nodes.map Node.id

/-- The first node with an id. -/
def node? (g : Graph) (id : String) : Option Node := g.nodes.find? fun n => n.id == id

/-- Whether an edge ends at something that is no node. -/
def isDangling (g : Graph) (e : Edge) : Bool :=
  !g.nodeIds.contains e.source || !g.nodeIds.contains e.target

/-- The edges that end at something that is no node. -/
def danglingEdges (g : Graph) : List Edge := g.edges.filter g.isDangling

/-- The repeated ids of a list, each once, in the order of their second occurrence.  What was seen
and what was reported so far is given. -/
def repeatedFrom (seen reported : List String) : List String → List String
  | [] => reported
  | id :: ids =>
    if seen.contains id && !reported.contains id then
      repeatedFrom (id :: seen) (reported ++ [id]) ids
    else repeatedFrom (id :: seen) reported ids

/-- The ids that occur more than once, each once, in the order of their second occurrence. -/
def repeatedIds (ids : List String) : List String := repeatedFrom [] [] ids

/-- Accepts a graph whose node ids differ from one another. -/
def checkIds (input : Value) (g : Graph) : Reading Graph :=
  match repeatedIds g.nodeIds with
  | [] => .ok g
  | ids => .issue (.duplicateIds ids) input

/-- The graph as a typed value. -/
def toValue (g : Graph) : Value :=
  .typed .graph
    [("nodes", .list (g.nodes.map Node.toValue)), ("edges", .list (g.edges.map Edge.toValue)),
      ("settings", g.settings.toValue)]

/-- Reads the three parts of a graph; what is missing is empty. -/
def readParts (v : Value) : Reading Graph :=
  Graph.mk <$> Reading.fieldD v ["nodes"] [] (Reading.list Node.read) <*>
    Reading.fieldD v ["edges"] [] (Reading.list Edge.read) <*>
    Reading.fieldD v ["settings"] Settings.initial Settings.read

/-- Reads a graph. -/
def read (v : Value) : Reading Graph :=
  Reading.shaped .graph v fun v => (readParts v).andThen (checkIds v)

/-- Reads a graph from a payload and says why it is rejected. -/
def validate (v : Value) : Except Fault Graph :=
  if Reading.admits .graph v then
    match read v with
    | .ok g => .ok g
    | .bad issues => .error (.ofIssues issues)
  else .error (.invalidProject ["<root>: expected an object, got " ++ v.kindName])

/-- The payload of a graph, without the fields that are null. -/
def stored (g : Graph) : Value := g.toValue.flatten .compact

/-- The payload of a graph, if there is one: its properties and variables may hold values that have
no stored form. -/
def stored? (g : Graph) : Except Fault Value := g.toValue.flatten? .compact

/-- The graph with the given parts, if its node ids differ from one another. -/
def ofParts (nodes : List Node) (edges : List Edge) (settings : Settings) : Reading Graph :=
  let g : Graph := ⟨nodes, edges, settings⟩
  checkIds g.toValue g

end Graph

namespace Reading

/-- The step of a path that a table key makes. -/
def keyStep : Value → Step
  | .text s => .name s
  | .int n => if fitsWord n then .index n else .name (toString n)
  | .bool b => .index (if b then 1 else 0)
  | v => .name v.literal

/-- A table whose keys are all texts. -/
def namedTable : Table → Reading Fields
  | [] => ok []
  | (k, v) :: es =>
    (fun name rest => (name, v) :: rest) <$> under (keyStep k) (under (.name "[key]") (text k)) <*>
      namedTable es

end Reading

/-- The empty graph of a new project, with a theme and the first values of its variables. -/
def Graph.fresh (theme vars : Value) : Except Fault Graph := do
  let table ← if vars.truthy then vars.toTable? else pure []
  let reading := Settings.mk <$>
    Reading.under (.name "theme") (Reading.oneOf Theme.byName theme) <*> pure false <*>
    Reading.under (.name "variables") (Reading.namedTable table)
  match reading with
  | .ok settings => pure ⟨[], [], settings⟩
  | .bad issues => throw (.invalid issues)

end EventCanvas
