import EventCanvas.Placeholder
import EventCanvas.Upgrade

/-!
# Wiring checks

A graph that reads well may still be wired wrongly: edges and actions may name
nodes that do not exist, and components may be asked for events that they never
emit.  The engine skips such things, so they are reported as warnings.
-/

namespace EventCanvas.Lint

/-- The kinds of event that a component emits. -/
def emitted : Component → List Gesture
  | .button => [.click]
  | .text => []
  | .input => [.change, .submit]

/-- The warning about an edge. -/
def edgeWarning (ids : List String) (e : Edge) : String :=
  let missing := [e.source, e.target].filter fun id => !ids.contains id
  "edge " ++ e.id ++ ": references unknown node(s) " ++ ", ".intercalate missing

/-- The name of a handler in a warning. -/
def place (n : Node) (index : Nat) (h : Handler) : String :=
  "node " ++ n.id ++ " event #" ++ toString index ++ " (" ++ h.gesture.name ++ ")"

/-- The warning about an event that the component never emits. -/
def neverEmitted (n : Node) (h : Handler) : List String :=
  if (emitted n.component).contains h.gesture then []
  else ["a " ++ n.component.name ++ " never emits " ++ h.gesture.name]

/-- The target of an action, if it is not empty. -/
def namedTarget? (a : Action) : Option String :=
  a.target.bind fun t => if t = "" then none else some t

/-- The warning about a target that does not exist. -/
def missingNode (ids : List String) (a : Action) : List String :=
  match a.kind, namedTarget? a with
  | .setText, some t => if ids.contains t then [] else ["setText target " ++ t ++ " does not exist"]
  | _, _ => []

/-- The warning about a variable that is not named. -/
def missingVariable (a : Action) : List String :=
  if a.kind = .setVariable && (namedTarget? a).isNone then
    ["setVariable has no target variable"]
  else []

/-- The warnings about references to nodes that do not exist. -/
def missingReferences (ids : List String) (a : Action) : List String :=
  (Placeholder.placeholders a.value ++ Placeholder.placeholders (a.target.getD "")).filterMap
    fun (source, name) =>
      if source = .node && !ids.contains name then
        some ("placeholder #\x7b" ++ name ++ "\x7d names no node")
      else none

/-- The warnings about one handler, without its place. -/
def handlerWarnings (ids : List String) (n : Node) (h : Handler) : List String :=
  neverEmitted n h ++ missingNode ids h.action ++ missingVariable h.action ++
    missingReferences ids h.action

/-- The warnings about the handlers of a node from an index on. -/
def handlersFrom (ids : List String) (n : Node) : Nat → List Handler → List String
  | _, [] => []
  | i, h :: hs =>
    (handlerWarnings ids n h).map (place n i h ++ ": " ++ ·) ++ handlersFrom ids n (i + 1) hs

/-- The warnings about a node. -/
def nodeWarnings (ids : List String) (n : Node) : List String :=
  handlersFrom ids n 0 n.data.handlers

/-- The warnings about a graph. -/
def warnings (g : Graph) : List String :=
  g.danglingEdges.map (edgeWarning g.nodeIds) ++ g.nodes.flatMap (nodeWarnings g.nodeIds)

/-- What a check of a payload found: the graph in it with warnings, or errors. -/
structure Report where
  data : Option Graph
  errors : List String
  warnings : List String

/-- Whether a payload can be used. -/
def Report.ok (r : Report) : Bool := r.errors.isEmpty

/-- Upgrades, reads and checks a payload, bare or inside a project row. -/
def check (v : Value) : Except Fault Report :=
  match Upgrade.load (Upgrade.unwrap v) with
  | .ok g => .ok ⟨some g, [], warnings g⟩
  | .error (.invalidProject reasons) => .ok ⟨none, reasons, []⟩
  | .error f => .error f

end EventCanvas.Lint
