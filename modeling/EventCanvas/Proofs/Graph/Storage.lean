import EventCanvas.Proofs.Graph.Reading
import EventCanvas.Proofs.Upgrade.Present

/-!
# Storing a graph and loading it again

What a graph is stored as leaves out the fields that are null and names some fields differently,
and a number that is not finite is stored as null where it is no coordinate.  Reading undoes the
first two of these.

* `Graph.validate_flatten`: a graph is read back from any of its stored forms, with its properties
  and variables as they were stored.
* `Graph.load_stored`: the stored form of a graph is not changed by an upgrade, and loads as the
  graph with its properties and variables as they were stored.
* `Graph.isJson_flatten`: the stored forms of a graph with values of a data format are of that
  format.
* `Graph.stored?_of_shallow`, `Graph.stored?_of_not_shallow`: a graph with values of a data format
  has a stored form unless some of them stand too deep.
-/

namespace EventCanvas

open Value (flatten flattenItems flattenEntries)

/-! ## What storing leaves of a graph -/

/-- Node data with its properties as they are stored. -/
def NodeData.asStored (form : FlatForm) (d : NodeData) : NodeData :=
  { d with props := d.props.map (flattenEntries form) }

/-- A node with its properties as they are stored. -/
def Node.asStored (form : FlatForm) (n : Node) : Node := { n with data := n.data.asStored form }

/-- Settings with the variables as they are stored. -/
def Settings.asStored (form : FlatForm) (s : Settings) : Settings :=
  { s with vars := flattenEntries form s.vars }

/-- A graph with its properties and variables as they are stored. -/
def Graph.asStored (form : FlatForm) (g : Graph) : Graph :=
  { g with nodes := g.nodes.map (Node.asStored form), settings := g.settings.asStored form }

theorem Graph.nodeIds_asStored (form : FlatForm) (g : Graph) :
    (g.asStored form).nodeIds = g.nodeIds := by
  show (g.nodes.map (Node.asStored form)).map Node.id = g.nodes.map Node.id
  rw [List.map_map]
  rfl

/-! ## Reading what was stored -/

theorem Position.read_flatten (form : FlatForm) (p : Position) :
    Position.read (p.toValue.flatten form) = .ok p := by
  rcases form with ⟨_ | _, _ | _⟩ <;> rfl

theorem Action.read_flatten (form : FlatForm) (a : Action) :
    Action.read (a.toValue.flatten form) = .ok a := by
  rcases a with ⟨kind, _ | target, value⟩ <;> rcases form with ⟨_ | _, _ | _⟩ <;>
    cases kind <;> rfl

theorem Handler.read_flatten (form : FlatForm) (h : Handler) :
    Handler.read (h.toValue.flatten form) = .ok h := by
  have gesture : Reading.oneOf Gesture.byName (.text h.gesture.name) = .ok h.gesture := by
    cases h.gesture <;> rfl
  have parts : Handler.mk <$>
        (Reading.oneOf Gesture.byName (.text h.gesture.name)).under (.name "type") <*>
      (Action.read (h.action.toValue.flatten form)).under (.name "action") = .ok h := by
    rw [gesture, Action.read_flatten]
    rfl
  rcases form with ⟨_ | _, _ | _⟩ <;> exact parts

theorem NodeData.read_flatten (form : FlatForm) (d : NodeData) :
    NodeData.read (d.toValue.flatten form) = .ok (d.asStored form) := by
  have handlers (hs : List Handler) : Reading.list Handler.read
      (.list (flattenItems form (hs.map Handler.toValue))) = .ok hs := by
    rw [Value.flattenItems_eq, List.map_map]
    exact (Reading.list_map fun h _ => h.read_flatten form).trans (congrArg _ (List.map_id hs))
  rcases d with ⟨label, props, _ | hs⟩
  · rcases form with ⟨_ | _, _ | _⟩ <;> cases props <;> rfl
  · have events : Reading.ok (NodeData.mk label (props.map (flattenEntries form))) <*>
        (some <$> Reading.list Handler.read
          (.list (flattenItems form (hs.map Handler.toValue)))).under (.name "events") =
        .ok ((⟨label, props, some hs⟩ : NodeData).asStored form) := by
      rw [handlers]
      rfl
    rcases form with ⟨_ | _, _ | _⟩ <;> cases props <;> exact events

theorem Node.read_flatten (form : FlatForm) (n : Node) :
    Node.read (n.toValue.flatten form) = .ok (n.asStored form) := by
  have component : Reading.oneOf Component.byName (.text n.component.name) = .ok n.component := by
    cases n.component <;> rfl
  have parts : Reading.ok (Node.mk n.id) <*>
      (Reading.oneOf Component.byName (.text n.component.name)).under (.name "type") <*>
      (Position.read (n.position.toValue.flatten form)).under (.name "position") <*>
      (NodeData.read (n.data.toValue.flatten form)).under (.name "data") =
        .ok (n.asStored form) := by
    rw [component, Position.read_flatten, NodeData.read_flatten]
    rfl
  rcases form with ⟨_ | _, _ | _⟩ <;> exact parts

theorem Edge.read_flatten (form : FlatForm) (e : Edge) :
    Edge.read (e.toValue.flatten form) = .ok e := by
  rcases e with ⟨id, source, target, _ | kind⟩ <;> rcases form with ⟨_ | _, _ | _⟩ <;> rfl

theorem Settings.read_flatten (form : FlatForm) (s : Settings) :
    Settings.read (s.toValue.flatten form) = .ok { s with vars := flattenEntries form s.vars } := by
  rcases s with ⟨theme, previewMode, vars⟩
  cases theme <;> rcases form with ⟨_ | _, _ | _⟩ <;> rfl

/-- The fields that the data of a node is stored with. -/
def NodeData.storedFields (d : NodeData) : Fields :=
  ("label", .text d.label) ::
    ((d.props.map fun ps => ("props", .object (flattenEntries .compact ps))).toList ++
      (d.events.map fun hs =>
        ("events", .list (flattenItems .compact (hs.map Handler.toValue)))).toList)

theorem NodeData.flatten_toValue (d : NodeData) :
    d.toValue.flatten .compact = .object d.storedFields := by
  rcases d with ⟨label, _ | ps, _ | hs⟩ <;> rfl

/-- The stored data of a node has the present form. -/
theorem NodeData.isPresent_stored (d : NodeData) : Upgrade.IsPresentData d.storedFields where
  labelled := ⟨.text d.label, rfl, by simp⟩
  typed_outside := by
    rcases d with ⟨label, _ | ps, _ | hs⟩ <;> rfl
  gathered := by
    rcases d with ⟨label, _ | ps, _ | hs⟩ <;>
      simp [storedFields, Upgrade.presentationFields, Entries.lookup]
  props := by
    rcases d with ⟨label, _ | ps, _ | hs⟩ <;> simp [storedFields, Entries.lookup, eq_comm]

theorem Node.flatten_toValue (n : Node) : n.toValue.flatten .compact = .object
    [("id", .text n.id), ("type", .text n.component.name),
      ("position", n.position.toValue.flatten .compact),
      ("data", .object n.data.storedFields)] := by
  rw [← NodeData.flatten_toValue]
  rfl

theorem Node.upgrade_stored (n : Node) :
    Upgrade.node (n.toValue.flatten .compact) = n.toValue.flatten .compact := by
  rw [flatten_toValue]
  refine congrArg Value.object (Upgrade.nodeFields_of_present ?_ rfl n.data.isPresent_stored)
  exact Upgrade.rendererComponent?_name n.component

/-! ## The stored form of a graph -/

namespace Graph

variable {g : Graph}

/-- The fields of a payload with some nodes and, as they are stored, the edges and the settings of a
graph. -/
def storedParts (form : FlatForm) (nodes : List Value) (g : Graph) : Fields :=
  [("nodes", .list nodes), ("edges", .list (g.edges.map fun e => e.toValue.flatten form)),
    ("settings", g.settings.toValue.flatten form)]

/-- The stored form of a graph has its three parts in their order. -/
theorem flatten_toValue (form : FlatForm) (g : Graph) : g.toValue.flatten form =
    .object (g.storedParts form (g.nodes.map fun n => n.toValue.flatten form)) := by
  have nodes : flattenItems form (g.nodes.map Node.toValue) =
      g.nodes.map fun n => n.toValue.flatten form := by
    rw [Value.flattenItems_eq, List.map_map]
    rfl
  have edges : flattenItems form (g.edges.map Edge.toValue) =
      g.edges.map fun e => e.toValue.flatten form := by
    rw [Value.flattenItems_eq, List.map_map]
    rfl
  rw [storedParts, ← nodes, ← edges]
  rcases form with ⟨_ | _, _ | _⟩ <;> rfl

theorem readParts_flatten (form : FlatForm) (g : Graph) :
    readParts (g.toValue.flatten form) = .ok (g.asStored form) := by
  have nodes : Reading.list Node.read (.list (g.nodes.map fun n => n.toValue.flatten form)) =
      .ok (g.nodes.map (Node.asStored form)) := Reading.list_map fun n _ => n.read_flatten form
  have edges : Reading.list Edge.read (.list (g.edges.map fun e => e.toValue.flatten form)) =
      .ok g.edges :=
    (Reading.list_map fun e _ => e.read_flatten form).trans (congrArg _ (List.map_id g.edges))
  rw [flatten_toValue]
  show Graph.mk <$> (Reading.list Node.read _).under (.name "nodes") <*>
    (Reading.list Edge.read _).under (.name "edges") <*>
    (Settings.read _).under (.name "settings") = _
  rw [nodes, edges, Settings.read_flatten]
  rfl

/-- In whatever form a graph is stored, it is accepted as the graph with its properties and
variables as they were stored. -/
theorem validate_flatten (form : FlatForm) (nodup : g.nodeIds.Nodup) :
    validate (g.toValue.flatten form) = .ok (g.asStored form) := by
  refine validate_eq_ok_iff.2 ⟨?_, g.readParts_flatten form, ?_⟩
  · rw [flatten_toValue]
    rfl
  · rw [nodeIds_asStored]
    exact nodup

/-! ## Upgrading the stored form -/

/-- In whatever form a graph is stored, an upgrade goes through its nodes and leaves the rest. -/
theorem payload?_flatten (form : FlatForm) (g : Graph) :
    Upgrade.payload? (g.toValue.flatten form) = .ok (.object
      (g.storedParts form (g.nodes.map fun n => Upgrade.node (n.toValue.flatten form)))) := by
  have parts : Upgrade.parts (g.storedParts form (g.nodes.map fun n => n.toValue.flatten form)) =
      g.storedParts form (g.nodes.map fun n => Upgrade.node (n.toValue.flatten form)) := by
    show g.storedParts form (List.map Upgrade.node _) = _
    rw [List.map_map]
    rfl
  have fields :
      Upgrade.payloadFields (g.storedParts form (g.nodes.map fun n => n.toValue.flatten form)) =
        g.storedParts form (g.nodes.map fun n => Upgrade.node (n.toValue.flatten form)) := by
    rw [Upgrade.payloadFields, parts]
    exact Entries.foldl_putNew_of_mem fun e member => List.mem_map_of_mem (f := (·.1)) member
  rw [flatten_toValue]
  exact congrArg (Except.ok ∘ Value.object) fields

/-- Upgrading does not change the stored form of a graph. -/
theorem payload?_stored (g : Graph) : Upgrade.payload? g.stored = .ok g.stored := by
  have nodes : (g.nodes.map fun n => Upgrade.node (n.toValue.flatten .compact)) =
      g.nodes.map fun n => n.toValue.flatten .compact :=
    List.map_congr_left fun n _ => n.upgrade_stored
  rw [stored, payload?_flatten, nodes, flatten_toValue]

/-- The stored form of a graph is not taken for a project row. -/
theorem unwrap_stored (g : Graph) : Upgrade.unwrap g.stored = g.stored := by
  rw [stored, flatten_toValue]
  rfl

/-- The stored form of a graph loads as the graph with its properties and variables as they were
stored. -/
theorem load_stored (nodup : g.nodeIds.Nodup) :
    Upgrade.load g.stored = .ok (g.asStored .compact) := by
  show (Upgrade.payload? g.stored).bind validate = _
  rw [payload?_stored]
  exact validate_flatten .compact nodup

end Graph

/-! ## Stored forms of a data format -/

section IsJson

open Value (isJson_flatten_typed)

variable (form : FlatForm)

theorem Position.isJson_flatten (p : Position) : (p.toValue.flatten form).IsJson :=
  isJson_flatten_typed rfl (by simp [Entries.keys]) (by simp [Shape.outerName]) <| by
    simp [Value.IsJson.flatten]

theorem Action.isJson_flatten (a : Action) : (a.toValue.flatten form).IsJson := by
  rcases a with ⟨kind, target, value⟩
  cases kind <;>
    exact isJson_flatten_typed rfl (by simp [Entries.keys]) (by simp [Shape.outerName]) (by
      simp [Value.IsJson.flatten])

theorem Handler.isJson_flatten (h : Handler) : (h.toValue.flatten form).IsJson :=
  isJson_flatten_typed rfl (by simp [Entries.keys]) (by simp [Shape.outerName]) <| by
    simp [Value.IsJson.flatten, h.action.isJson_flatten form]

theorem NodeData.isJson_flatten {d : NodeData}
    (json : ∀ ps, d.props = some ps → (Value.object ps).IsJson) :
    (d.toValue.flatten form).IsJson := by
  rcases d with ⟨label, props, events⟩
  have props : (((props.map .object).getD .null : Value).flatten form).IsJson := by
    cases props with
    | none => exact Value.IsJson.null.flatten form
    | some ps => exact (json ps rfl).flatten form
  have events :
      (((events.map fun hs => .list (hs.map Handler.toValue)).getD .null : Value).flatten
        form).IsJson := by
    cases events with
    | none => exact Value.IsJson.null.flatten form
    | some hs =>
      show (Value.list (flattenItems form (hs.map Handler.toValue))).IsJson
      rw [Value.flattenItems_eq, List.map_map]
      exact .list (List.forall_mem_map.2 fun h _ => h.isJson_flatten form)
  exact isJson_flatten_typed rfl (by simp [Entries.keys]) (by simp [Shape.outerName]) (by
    simp [Value.IsJson.flatten, props, events])

theorem Node.isJson_flatten {n : Node}
    (json : ∀ ps, n.data.props = some ps → (Value.object ps).IsJson) :
    (n.toValue.flatten form).IsJson := by
  have data := NodeData.isJson_flatten form json
  exact isJson_flatten_typed rfl (by simp [Entries.keys]) (by simp [Shape.outerName]) (by
    simp [Value.IsJson.flatten, data, n.position.isJson_flatten form])

theorem Edge.isJson_flatten (e : Edge) : (e.toValue.flatten form).IsJson :=
  isJson_flatten_typed rfl (by simp [Entries.keys]) (by simp [Shape.outerName]) <| by
    simp [Value.IsJson.flatten]

theorem Settings.isJson_flatten {s : Settings} (json : (Value.object s.vars).IsJson) :
    (s.toValue.flatten form).IsJson := by
  have vars := json.flatten form
  exact isJson_flatten_typed rfl (by simp [Entries.keys]) (by simp [Shape.outerName]) (by
    simp [Value.IsJson.flatten, vars])

end IsJson

/-! ## Which graphs can be stored -/

theorem Handler.obstacle?_eq_none (h : Handler) : Value.declaredObstacle? 0 h.toValue = none := by
  rcases h with ⟨gesture, kind, _ | target, value⟩ <;> cases kind <;> rfl

theorem NodeData.obstacle?_eq (d : NodeData) :
    Value.declaredObstacle? 0 d.toValue = d.props.bind (Value.obstacleEntries? 0) := by
  have handlers (hs : List Handler) :
      Value.declaredObstacles? 0 (hs.map Handler.toValue) = none := by
    rw [Value.declaredObstacles?_eq, List.findSome?_map]
    exact List.findSome?_eq_none_iff.2 fun h _ => h.obstacle?_eq_none
  rcases d with ⟨label, props, _ | hs⟩
  · cases props with
    | none => rfl
    | some ps => exact Option.or_none
  · have rest : (Value.declaredObstacles? 0 (hs.map Handler.toValue)).or none = none := by
      rw [handlers]
      rfl
    cases props with
    | none => exact rest
    | some ps => exact (congrArg (Option.or _) rest).trans Option.or_none

theorem Node.obstacle?_eq (n : Node) :
    Value.declaredObstacle? 0 n.toValue = n.data.props.bind (Value.obstacleEntries? 0) := by
  have data : Value.declaredObstacle? 0 n.toValue =
      (Value.declaredObstacle? 0 n.data.toValue).or none := by
    rcases n with ⟨id, component, position, data⟩
    rfl
  rw [data, Option.or_none, NodeData.obstacle?_eq]

namespace Graph

variable {g : Graph}

/-- The tables of a graph that may hold any values: the properties of its nodes, and its
variables. -/
def tables (g : Graph) : List Fields :=
  g.nodes.filterMap (fun n => n.data.props) ++ [g.settings.vars]

/-- What keeps a graph from being stored is in its tables. -/
theorem obstacle?_eq (g : Graph) :
    Value.declaredObstacle? 0 g.toValue = g.tables.findSome? (Value.obstacleEntries? 0) := by
  have nodes (ns : List Node) : Value.declaredObstacles? 0 (ns.map Node.toValue) =
      (ns.filterMap fun n => n.data.props).findSome? (Value.obstacleEntries? 0) := by
    rw [Value.declaredObstacles?_eq, List.findSome?_map]
    induction ns with
    | nil => rfl
    | cons n ns ih =>
      rw [List.findSome?_cons, ih, List.filterMap_cons]
      have here : (Value.declaredObstacle? 0 ∘ Node.toValue) n =
        n.data.props.bind (Value.obstacleEntries? 0) := n.obstacle?_eq
      rw [here]
      cases n.data.props <;> rfl
  have edges (es : List Edge) : Value.declaredObstacles? 0 (es.map Edge.toValue) = none := by
    rw [Value.declaredObstacles?_eq, List.findSome?_map]
    refine List.findSome?_eq_none_iff.2 fun e _ => ?_
    rcases e with ⟨id, source, target, _ | kind⟩ <;> rfl
  have settings (s : Settings) :
      Value.declaredObstacle? 0 s.toValue = (Value.obstacleEntries? 0 s.vars).or none := rfl
  show (Value.declaredObstacles? 0 (g.nodes.map Node.toValue)).or
    ((Value.declaredObstacles? 0 (g.edges.map Edge.toValue)).or
      ((Value.declaredObstacle? 0 g.settings.toValue).or none)) = _
  rw [nodes, edges, settings, tables, List.findSome?_append]
  simp

/-- The values in a graph are of a data format. -/
def IsJson (g : Graph) : Prop := ∀ fs ∈ g.tables, (Value.object fs).IsJson

/-- Whatever its numbers, the stored form of a graph is of a data format if its values are. -/
theorem isJson_flatten (json : g.IsJson) (form : FlatForm) : (g.toValue.flatten form).IsJson := by
  have nodes : ∀ n ∈ g.nodes, (n.toValue.flatten form).IsJson := fun n member =>
    Node.isJson_flatten form fun ps found =>
      json ps (List.mem_append_left _ (List.mem_filterMap.2 ⟨n, member, found⟩))
  have settings : (g.settings.toValue.flatten form).IsJson :=
    Settings.isJson_flatten form (json _ (by simp [tables]))
  rw [flatten_toValue]
  simpa [storedParts, Entries.keys, Edge.isJson_flatten, settings] using nodes

/-- All numbers in a graph that may have a fraction are finite. -/
structure IsFinite (g : Graph) : Prop where
  positions : ∀ n ∈ g.nodes, n.position.x.isFinite = true ∧ n.position.y.isFinite = true
  values : ∀ fs ∈ g.tables, (Value.object fs).IsFinite

/-- No value in a graph stands inside too many lists and tables, the properties of a node and the
variables being such tables themselves. -/
def IsShallow (g : Graph) : Prop := ∀ fs ∈ g.tables, (Value.object fs).nesting ≤ Value.maxDepth

instance (g : Graph) : Decidable g.IsShallow :=
  inferInstanceAs (Decidable (∀ fs ∈ g.tables, (Value.object fs).nesting ≤ Value.maxDepth))

theorem stored?_of_shallow (json : g.IsJson) (shallow : g.IsShallow) :
    g.stored? = .ok g.stored := by
  have none : Value.declaredObstacle? 0 g.toValue = none := by
    rw [obstacle?_eq, List.findSome?_eq_none_iff]
    intro fs member
    rw [(json fs member).obstacleEntries?_eq, if_pos (shallow fs member)]
  rw [stored?, Value.flatten?, none]
  rfl

/-- A graph that is too deep has no stored form. -/
theorem stored?_of_not_shallow (json : g.IsJson) (deep : ¬ g.IsShallow) :
    g.stored? = .error .tooDeep := by
  have found : Value.declaredObstacle? 0 g.toValue = some .tooDeep := by
    rw [obstacle?_eq]
    cases obstacle : g.tables.findSome? (Value.obstacleEntries? 0) with
    | none =>
      refine absurd (fun fs member => ?_) deep
      have fits := List.findSome?_eq_none_iff.1 obstacle fs member
      rw [(json fs member).obstacleEntries?_eq] at fits
      simpa using fits
    | some f =>
      obtain ⟨fs, member, obstacle⟩ := List.exists_of_findSome?_eq_some obstacle
      rw [(json fs member).obstacleEntries?_eq] at obstacle
      split at obstacle
      · cases obstacle
      · exact obstacle.symm
  rw [stored?, Value.flatten?, found]

/-- With finite numbers, a graph with values of a data format is stored as it is. -/
theorem asStored_eq_self (json : g.IsJson) (finite : g.IsFinite) (form : FlatForm) :
    g.asStored form = g := by
  have kept : ∀ fs ∈ g.tables, flattenEntries form fs = fs := fun fs member =>
    Value.object.inj ((json fs member).flatten_eq_self (finite.values fs member) form)
  have vars : g.settings.asStored form = g.settings := by
    rw [Settings.asStored, kept g.settings.vars (by simp [tables])]
  have nodes : g.nodes.map (Node.asStored form) = g.nodes.map id := by
    refine List.map_congr_left fun n member => ?_
    have props : n.data.props.map (flattenEntries form) = n.data.props := by
      cases found : n.data.props with
      | none => rfl
      | some ps =>
        have inside : ps ∈ g.tables :=
          List.mem_append_left _ (List.mem_filterMap.2 ⟨n, member, found⟩)
        rw [Option.map_some, kept ps inside]
    rw [Node.asStored, NodeData.asStored, props]
    rfl
  rw [asStored, nodes, List.map_id, vars]

end Graph

end EventCanvas
