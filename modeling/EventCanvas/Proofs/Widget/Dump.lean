import EventCanvas.Proofs.Graph.Storage
import EventCanvas.Proofs.Outcome
import EventCanvas.Widget

/-!
# The widget's view in stored form

What the widget is handed is the stored form of its view of a graph.  That keeps the properties of
a node one table deeper than the graph itself does, so a graph may have a stored form where the
widget's view of it has none.

* `Graph.widgetDump?_of_fits`: the nodes and the edges that the widget is handed, for a graph with
  properties of a data format.
* `Graph.widgetDump?_of_not_fits`: if the properties of a node are too deep, it is handed nothing.
-/

namespace EventCanvas

open Value (flatten flattenItems flattenEntries)

namespace Graph

/-- The widget's nodes and edges in stored form, if they have one. -/
def widgetDump? (form : FlatForm) (g : Graph) : Except Fault (List Value × List Value) := do
  let (nodes, edges) ← g.toWidget?
  let nodes ← nodes.mapM fun n => n.toValue.flatten? form
  let edges ← edges.mapM fun e => e.toValue.flatten? form
  return (nodes, edges)

end Graph

/-- The properties of a node are of a data format, with finite numbers. -/
structure NodeData.IsPlain (d : NodeData) : Prop where
  json : ∀ ps ∈ d.props, (Value.object ps).IsJson
  finite : ∀ ps ∈ d.props, (Value.object ps).IsFinite

/-- No value in the properties of a node stands inside too many lists and tables, where the
properties themselves are the first of these. -/
def NodeData.FitsWidget (d : NodeData) : Prop :=
  ∀ ps ∈ d.props, (Value.object ps).nesting < Value.maxDepth

instance (d : NodeData) : Decidable d.FitsWidget :=
  inferInstanceAs (Decidable (∀ ps ∈ d.props, (Value.object ps).nesting < Value.maxDepth))

/-- The properties of all nodes are of a data format, with finite numbers. -/
def Graph.IsPlain (g : Graph) : Prop := ∀ n ∈ g.nodes, n.data.IsPlain

/-- The properties of no node are too deep for the widget. -/
def Graph.FitsWidget (g : Graph) : Prop := ∀ n ∈ g.nodes, n.data.FitsWidget

instance (g : Graph) : Decidable g.FitsWidget :=
  inferInstanceAs (Decidable (∀ n ∈ g.nodes, n.data.FitsWidget))

/-! ## Handlers -/

/-- The fields that an action is stored with. -/
def Action.storedFields (a : Action) : Fields :=
  (a.target.map fun t => ("target", .text t)).toList ++
    [("value", .text a.value), ("type", .text a.kind.tag)]

/-- A handler as it is stored. -/
def Handler.storedForm (h : Handler) : Value :=
  .object [("type", .text h.gesture.name), ("action", .object h.action.storedFields)]

theorem Handler.flatten_toValue (h : Handler) (outer : Bool) :
    h.toValue.flatten ⟨outer, true⟩ = h.storedForm := by
  rcases h with ⟨gesture, kind, _ | target, value⟩ <;> cases kind <;> cases outer <;> rfl

theorem Handler.isJson_storedForm (h : Handler) : h.storedForm.IsJson := by
  rcases h with ⟨gesture, kind, _ | target, value⟩ <;>
    simp [storedForm, Action.storedFields, Entries.keys]

theorem Handler.isFinite_storedForm (h : Handler) : h.storedForm.IsFinite := by
  rcases h with ⟨gesture, kind, _ | target, value⟩ <;>
    simp [storedForm, Action.storedFields]

theorem Handler.nesting_storedForm (h : Handler) : h.storedForm.nesting = 2 := by
  rcases h with ⟨gesture, kind, _ | target, value⟩ <;> rfl

/-! ## The data of a node -/

namespace NodeData

/-- The fields that plain data of a node is stored with. -/
def plainFields (d : NodeData) : Fields :=
  ("label", .text d.label) ::
    ((d.props.map fun ps => ("props", .object ps)).toList ++
      (d.events.map fun hs => ("events", .list (hs.map Handler.storedForm))).toList)

/-- The fields of the widget's data for a component with plain data. -/
def widgetFields (c : Component) (d : NodeData) : Fields :=
  d.plainFields ++ [("componentType", .text c.name)]

variable {d : NodeData} {c : Component}

theorem put_componentType : Entries.put "componentType" (.text c.name) d.plainFields =
    d.widgetFields c := by
  rcases d with ⟨label, _ | ps, _ | hs⟩ <;> rfl

/-- What holds of the values in the widget's data. -/
theorem forall_widgetFields {P : Value → Prop} (texts : ∀ s, P (.text s))
    (props : ∀ ps ∈ d.props, P (.object ps))
    (events : ∀ hs ∈ d.events, P (.list (hs.map Handler.storedForm))) :
    ∀ e ∈ d.widgetFields c, P e.2 := by
  rcases d with ⟨label, _ | ps, _ | hs⟩ <;> simp_all [widgetFields, plainFields]

/-- The widget's data is not too deep if the properties in it are not. -/
theorem nesting_widgetFields_le_iff :
    (Value.object (d.widgetFields c)).nesting ≤ Value.maxDepth ↔ d.FitsWidget := by
  rw [Value.nesting_object_le_iff]
  constructor
  · intro each ps props
    have member : ("props", .object ps) ∈ d.widgetFields c := by
      simp [widgetFields, plainFields, Option.mem_def.1 props]
    exact each _ member
  · intro fits
    refine forall_widgetFields (P := fun v => v.nesting < Value.maxDepth) (fun s => ?_) fits
      fun hs _ => ?_
    · show 0 < Value.maxDepth
      decide
    · have handlers : (Value.list (hs.map Handler.storedForm)).nesting ≤ 3 := by
        rw [Value.nesting_list_le_iff, List.forall_mem_map]
        exact fun h _ => Nat.lt_succ_of_le (Nat.le_of_eq h.nesting_storedForm)
      exact Nat.lt_of_le_of_lt handlers (by decide)

theorem nodup_keys_widgetFields : (Entries.keys (d.widgetFields c)).Nodup := by
  rcases d with ⟨label, _ | ps, _ | hs⟩ <;> simp [widgetFields, plainFields, Entries.keys]

section Plain

variable (plain : d.IsPlain)

include plain

theorem flatten_toValue_of_plain (outer : Bool) :
    d.toValue.flatten ⟨outer, true⟩ = .object d.plainFields := by
  have props : d.props.map (flattenEntries ⟨outer, true⟩) = d.props := by
    cases found : d.props with
    | none => rfl
    | some ps =>
      have kept := (plain.json ps found).flatten_eq_self (plain.finite ps found) ⟨outer, true⟩
      rw [Option.map_some, Value.object.inj kept]
  have events (hs : List Handler) :
      flattenItems ⟨outer, true⟩ (hs.map Handler.toValue) = hs.map Handler.storedForm := by
    rw [Value.flattenItems_eq, List.map_map]
    exact List.map_congr_left fun h _ => h.flatten_toValue outer
  have stored : d.toValue.flatten ⟨outer, true⟩ = .object (("label", .text d.label) ::
      (((d.props.map (flattenEntries ⟨outer, true⟩)).map fun ps => ("props", .object ps)).toList ++
        (d.events.map fun hs =>
          ("events", .list (flattenItems ⟨outer, true⟩ (hs.map Handler.toValue)))).toList)) := by
    rcases d with ⟨label, _ | ps, _ | hs⟩ <;> cases outer <;> rfl
  rw [stored, props]
  simp only [events]
  rfl

theorem isJson_widgetFields : (Value.object (d.widgetFields c)).IsJson := by
  refine .object nodup_keys_widgetFields (forall_widgetFields (fun _ => .text _) plain.json ?_)
  intro hs _
  simpa using fun h _ => h.isJson_storedForm

theorem isFinite_widgetFields : (Value.object (d.widgetFields c)).IsFinite := by
  refine Value.isFinite_object_iff.2 (forall_widgetFields (by simp) plain.finite ?_)
  intro hs _
  simpa using fun h _ => h.isFinite_storedForm

end Plain

end NodeData

/-! ## Nodes and edges -/

namespace Node

/-- The widget's node for a node with plain data, in stored form. -/
def widgetForm (n : Node) : Value :=
  .object
    [("id", .text n.id), ("type", .text (WidgetNode.rendererFor (.text n.component.name))),
      ("position", n.position.toValue.flatten .compact),
      ("data", .object (n.data.widgetFields n.component))]

variable {n : Node} (plain : n.data.IsPlain)

include plain

theorem ofNode?_of_plain : WidgetNode.ofNode? n = .ok (.ofNode n n.data.plainFields) ∨
    WidgetNode.ofNode? n = .error .tooDeep ∧ ¬ n.data.FitsWidget := by
  cases obstacle : Value.declaredObstacle? 0 n.data.toValue with
  | none =>
    have stored : n.data.toValue.flatten? .innerCompact = .ok (.object n.data.plainFields) := by
      rw [Value.flatten?, obstacle, ← NodeData.flatten_toValue_of_plain plain false]
      rfl
    left
    rw [WidgetNode.ofNode?, stored]
    rfl
  | some f =>
    have refused : n.data.toValue.flatten? .innerCompact = .error f := by
      rw [Value.flatten?, obstacle]
    rw [NodeData.obstacle?_eq] at obstacle
    obtain ⟨ps, props, obstacle⟩ := Option.bind_eq_some_iff.1 obstacle
    rw [(plain.json ps props).obstacleEntries?_eq] at obstacle
    split at obstacle
    · cases obstacle
    · next deep =>
      obtain rfl : Fault.tooDeep = f := Option.some.inj obstacle
      right
      rw [WidgetNode.ofNode?, refused]
      exact ⟨rfl, fun fits => deep (Nat.le_of_lt (fits ps props))⟩

theorem flatten?_ofNode (form : FlatForm) :
    (WidgetNode.ofNode n n.data.plainFields).toValue.flatten? form =
      if n.data.FitsWidget then .ok n.widgetForm else .error .tooDeep := by
  have json := NodeData.isJson_widgetFields (c := n.component) plain
  have kept := json.flatten_eq_self (NodeData.isFinite_widgetFields plain) form
  have obstacle : Value.declaredObstacle? 0 (WidgetNode.ofNode n n.data.plainFields).toValue =
      (Value.obstacleEntries? 0 (n.data.widgetFields n.component)).or none := by
    rw [← NodeData.put_componentType]
    rfl
  have form_eq : (WidgetNode.ofNode n n.data.plainFields).toValue.flatten form = n.widgetForm := by
    rw [widgetForm, ← kept, ← NodeData.put_componentType]
    rcases form with ⟨_ | _, _ | _⟩ <;> rfl
  rw [Value.flatten?, obstacle, form_eq, json.obstacleEntries?_eq, Option.or_none]
  by_cases fits : n.data.FitsWidget
  · rw [if_pos (NodeData.nesting_widgetFields_le_iff.2 fits), if_pos fits]
  · rw [if_neg (mt NodeData.nesting_widgetFields_le_iff.1 fits), if_neg fits]

end Node

/-- The widget's edge for an edge, in stored form. -/
def Edge.widgetForm (form : FlatForm) (e : Edge) : Value :=
  (WidgetEdge.ofEdge e).toValue.flatten form

theorem Edge.flatten?_ofEdge (form : FlatForm) (e : Edge) :
    (WidgetEdge.ofEdge e).toValue.flatten? form = .ok (e.widgetForm form) := rfl

/-! ## The whole view -/

namespace Graph

variable {form : FlatForm} {g : Graph}

theorem isPlain_of_isJson (json : g.IsJson) (finite : g.IsFinite) : g.IsPlain := by
  intro n member
  have inside {ps : Fields} (props : ps ∈ n.data.props) : ps ∈ g.tables :=
    List.mem_append_left _ (List.mem_filterMap.2 ⟨n, member, props⟩)
  exact ⟨fun ps props => json ps (inside props), fun ps props => finite.values ps (inside props)⟩

theorem toWidget?_eq_ok
    (viewed : ∀ n ∈ g.nodes, WidgetNode.ofNode? n = .ok (.ofNode n n.data.plainFields)) :
    g.toWidget? = .ok (g.nodes.map fun n => .ofNode n n.data.plainFields,
      g.edges.map WidgetEdge.ofEdge) :=
  Outcome.bind_eq_ok_iff.2 ⟨_, Outcome.mapM_eq_ok_map viewed, rfl⟩

variable (plain : g.IsPlain)

include plain

/-- A graph whose properties are plain and not too deep has a stored form of the widget's view. -/
theorem widgetDump?_of_fits (fits : g.FitsWidget) :
    g.widgetDump? form =
      .ok (g.nodes.map Node.widgetForm, g.edges.map (Edge.widgetForm form)) := by
  have view := toWidget?_eq_ok fun n member =>
    (Node.ofNode?_of_plain (plain n member)).resolve_right fun failed => failed.2 (fits n member)
  have stored : (g.nodes.map fun n => WidgetNode.ofNode n n.data.plainFields).mapM
      (fun n => n.toValue.flatten? form) = .ok (g.nodes.map Node.widgetForm) := by
    rw [Outcome.mapM_eq_ok_iff, List.forall₂_map_left_iff, List.forall₂_map_right_iff,
      List.forall₂_same]
    intro n member
    rw [Node.flatten?_ofNode (plain n member), if_pos (fits n member)]
  have edges : (g.edges.map WidgetEdge.ofEdge).mapM (fun e => e.toValue.flatten? form) =
      .ok (g.edges.map (Edge.widgetForm form)) := by
    rw [Outcome.mapM_eq_ok_iff, List.forall₂_map_left_iff, List.forall₂_map_right_iff,
      List.forall₂_same]
    exact fun e _ => e.flatten?_ofEdge form
  exact Outcome.bind_eq_ok_iff.2 ⟨_, view, Outcome.bind_eq_ok_iff.2 ⟨_, stored,
    Outcome.bind_eq_ok_iff.2 ⟨_, edges, rfl⟩⟩⟩

/-- If the properties of some node are too deep for the widget, it is handed nothing. -/
theorem widgetDump?_of_not_fits (deep : ¬ g.FitsWidget) :
    g.widgetDump? form = .error .tooDeep := by
  by_cases viewed : ∀ n ∈ g.nodes, WidgetNode.ofNode? n = .ok (.ofNode n n.data.plainFields)
  · have stored : (g.nodes.map fun n => WidgetNode.ofNode n n.data.plainFields).mapM
        (fun n => n.toValue.flatten? form) = .error .tooDeep := by
      obtain ⟨n, member, deep⟩ : ∃ n ∈ g.nodes, ¬ n.data.FitsWidget := by
        simpa [FitsWidget] using deep
      refine Outcome.mapM_eq_error (List.forall_mem_map.2 fun m inside => ?_)
        ⟨_, List.mem_map_of_mem member, ?_⟩
      · rw [Node.flatten?_ofNode (plain m inside)]
        split
        · exact .inl ⟨_, rfl⟩
        · exact .inr rfl
      · rw [Node.flatten?_ofNode (plain n member), if_neg deep]
    exact Outcome.bind_eq_error_iff.2
      (.inr ⟨_, toWidget?_eq_ok viewed, Outcome.bind_eq_error_iff.2 (.inl stored)⟩)
  · obtain ⟨n, member, failed⟩ :
        ∃ n ∈ g.nodes, WidgetNode.ofNode? n ≠ .ok (.ofNode n n.data.plainFields) := by
      simpa using viewed
    have none : g.nodes.mapM WidgetNode.ofNode? = .error .tooDeep :=
      Outcome.mapM_eq_error
        (fun m inside => (Node.ofNode?_of_plain (plain m inside)).imp (fun done => ⟨_, done⟩) (·.1))
        ⟨n, member, ((Node.ofNode?_of_plain (plain n member)).resolve_left failed).1⟩
    have view : g.toWidget? = .error .tooDeep := Outcome.bind_eq_error_iff.2 (.inl none)
    exact Outcome.bind_eq_error_iff.2 (.inl view)

omit plain

/-- A graph with one component, which has one property. -/
def withProp (v : Value) : Graph :=
  ⟨[⟨"a", .text, ⟨.zero false, .zero false⟩, ⟨"L", some [("v", v)], none⟩⟩], [], Settings.initial⟩

/-- A graph that has a stored form and none of the widget's view. -/
def deepGraph : Graph := withProp (.wrapped 254 (.int 1))

theorem isJson_deepGraph : deepGraph.IsJson := by
  simp [IsJson, tables, deepGraph, withProp, Settings.initial, Entries.keys]

theorem isFinite_deepGraph : deepGraph.IsFinite where
  positions := by simpa [deepGraph, withProp] using by decide
  values := by simp [tables, deepGraph, withProp, Settings.initial]

theorem isPlain_deepGraph : deepGraph.IsPlain :=
  isPlain_of_isJson isJson_deepGraph isFinite_deepGraph

theorem widgetDump?_deepGraph (form : FlatForm) :
    deepGraph.widgetDump? form = .error .tooDeep := by
  refine widgetDump?_of_not_fits isPlain_deepGraph fun fits => ?_
  have inside := fits _ List.mem_cons_self [("v", .wrapped 254 (.int 1))] rfl
  have depth : (Value.object [("v", .wrapped 254 (.int 1))]).nesting = 255 := by
    show max ((Value.wrapped 254 (.int 1)).nesting + 1) 0 = 255
    rw [Value.nesting_wrapped]
    rfl
  exact absurd inside (Nat.not_lt.2 (Nat.le_of_eq depth.symm))

end Graph

end EventCanvas
