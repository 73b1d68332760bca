import EventCanvas.Proofs.Graph.Reading
import EventCanvas.Proofs.Widget.RoundTrip

/-!
# Loading the widget's view

An upgrade takes the widget's nodes for early ones: it replaces the name of the renderer by the
component's and takes the component out of the data.  What is left is the stored form of the node,
so the widget's view of a graph, with the settings of the graph beside it, loads as the graph.

* `Upgrade.node_widgetForm`: the upgraded form of a node of the widget.
* `Graph.view_loads`: the widget's view loads as the graph, with kinds for its edges.
-/

namespace EventCanvas

open Value (flattenEntries)

/-! ## Upgrading a node of the widget -/

theorem NodeData.storedFields_eq {d : NodeData} (plain : d.IsPlain) :
    d.storedFields = d.plainFields := by
  have stored : Value.object d.storedFields = .object d.plainFields :=
    d.flatten_toValue.symm.trans (flatten_toValue_of_plain plain true)
  exact Value.object.inj stored

theorem NodeData.remove_componentType (d : NodeData) (c : Component) :
    Entries.remove "componentType" (d.widgetFields c) = d.plainFields := by
  rcases d with ⟨label, _ | ps, _ | hs⟩ <;> rfl

/-- The fields of the widget's node for a node with plain data, under some name as its type. -/
def Node.handedFields (type : String) (n : Node) : Fields :=
  [("id", .text n.id), ("type", .text type), ("position", n.position.toValue.flatten .compact),
    ("data", .object (n.data.widgetFields n.component))]

namespace Upgrade

theorem rendererComponent?_rendererFor (c : Component) :
    rendererComponent? (.text (WidgetNode.rendererFor (.text c.name))) = some c := by
  cases c <;> rfl

theorem renameType_handedFields (n : Node) :
    renameType (n.handedFields (WidgetNode.rendererFor (.text n.component.name))) =
      n.handedFields n.component.name := by
  have named (type : String) : (Entries.lookup "type" (n.handedFields type)).bind
      rendererComponent? = rendererComponent? (.text type) := rfl
  rw [renameType, named, rendererComponent?_rendererFor]
  rfl

/-- The component in the data is not taken for the type where the type is known. -/
theorem adoptType_handedFields (n : Node) :
    adoptType (n.handedFields n.component.name) = n.handedFields n.component.name := by
  have known : hasKnownType (n.handedFields n.component.name) = true := by
    show (Component.ofName? n.component.name).isSome = true
    rw [Component.ofName?_name]
    rfl
  rw [adoptType, known]
  split <;> rfl

/-- From the widget's node for a node an upgrade makes the stored form of the node. -/
theorem node_widgetForm {n : Node} (plain : n.data.IsPlain) :
    node n.widgetForm = n.toValue.flatten .compact := by
  have present : IsPresentData n.data.plainFields := by
    rw [← NodeData.storedFields_eq plain]
    exact n.data.isPresent_stored
  have inside (type : String) :
      dataOf (n.handedFields type) = n.data.widgetFields n.component := rfl
  have upgraded : nodeFields (n.handedFields (WidgetNode.rendererFor (.text n.component.name))) =
      Entries.put "data" (.object n.data.plainFields) (n.handedFields n.component.name) := by
    simp only [nodeFields]
    rw [renameType_handedFields, adoptType_handedFields, inside, NodeData.remove_componentType,
      gatherProps_of_present present, addLabel_of_present present]
  rw [n.flatten_toValue, NodeData.storedFields_eq plain]
  exact congrArg Value.object upgraded

end Upgrade

/-! ## Reading what was upgraded -/

theorem Edge.read_widgetForm (form : FlatForm) (e : Edge) :
    Edge.read (e.widgetForm form) = .ok e.filled := by
  rw [← WidgetEdge.toEdge_ofEdge]
  rcases form with ⟨_ | _, _ | _⟩ <;> rfl

theorem Settings.flatten?_of_isJson {s : Settings} (json : (Value.object s.vars).IsJson)
    (form : FlatForm) :
    s.toValue.flatten? form =
      if (Value.object s.vars).nesting ≤ Value.maxDepth then .ok (s.toValue.flatten form)
      else .error .tooDeep := by
  have obstacle : Value.declaredObstacle? 0 s.toValue =
      (Value.obstacleEntries? 0 s.vars).or none := rfl
  rw [Value.flatten?, obstacle, json.obstacleEntries?_eq]
  by_cases shallow : (Value.object s.vars).nesting ≤ Value.maxDepth <;> simp [shallow]

/-! ## The whole view -/

namespace Graph

/-- A graph with kinds for all its edges. -/
def withKinds (g : Graph) : Graph := { g with edges := g.edges.map Edge.filled }

/-- The payload made of the widget's nodes and edges and of the settings, if these have a stored
form. -/
def widgetPayload? (form : FlatForm) (g : Graph) : Except Fault Value := do
  let (nodes, edges) ← g.widgetDump? form
  let settings ← g.settings.toValue.flatten? form
  return .object [("nodes", .list nodes), ("edges", .list edges), ("settings", settings)]

variable {g : Graph}

/-- The fields of a payload with some nodes, and with the widget's edges and the settings of a
graph. -/
def viewFields (form : FlatForm) (nodes : List Value) (g : Graph) : Fields :=
  [("nodes", .list nodes), ("edges", .list (g.edges.map (Edge.widgetForm form))),
    ("settings", g.settings.toValue.flatten form)]

theorem payload?_view (form : FlatForm) (plain : g.IsPlain) :
    Upgrade.payload? (.object (viewFields form (g.nodes.map Node.widgetForm) g)) =
      .ok (.object (viewFields form (g.nodes.map fun n => n.toValue.flatten .compact) g)) := by
  have nodes : (g.nodes.map Node.widgetForm).map Upgrade.node =
      g.nodes.map fun n => n.toValue.flatten .compact := by
    rw [List.map_map]
    exact List.map_congr_left fun n member => Upgrade.node_widgetForm (plain n member)
  have parts : Upgrade.parts (viewFields form (g.nodes.map Node.widgetForm) g) =
      viewFields form (g.nodes.map fun n => n.toValue.flatten .compact) g := by
    rw [← nodes]
    rfl
  have fields : Upgrade.payloadFields (viewFields form (g.nodes.map Node.widgetForm) g) =
      viewFields form (g.nodes.map fun n => n.toValue.flatten .compact) g := by
    rw [Upgrade.payloadFields, parts]
    refine Entries.foldl_putNew_of_mem fun e member => ?_
    show e.1 ∈ Entries.keys (viewFields form (g.nodes.map Node.widgetForm) g)
    exact List.mem_map_of_mem member
  exact congrArg (Except.ok ∘ Value.object) fields

/-- The widget's nodes and edges, with the settings beside them, load as the graph. -/
theorem load_view (form : FlatForm) (json : g.IsJson) (finite : g.IsFinite)
    (nodup : g.nodeIds.Nodup) :
    Upgrade.load (.object (viewFields form (g.nodes.map Node.widgetForm) g)) =
      .ok g.withKinds := by
  have nodes : Reading.list Node.read (.list (g.nodes.map fun n => n.toValue.flatten .compact)) =
      .ok g.nodes :=
    (Reading.list_map fun n _ => n.read_flatten .compact).trans
      (congrArg (Reading.ok ∘ Graph.nodes) (asStored_eq_self json finite .compact))
  have edges : Reading.list Edge.read (.list (g.edges.map (Edge.widgetForm form))) =
      .ok (g.edges.map Edge.filled) := Reading.list_map fun e _ => e.read_widgetForm form
  have settings : Settings.read (g.settings.toValue.flatten form) = .ok g.settings := by
    have last : g.settings.vars ∈ g.tables := by simp [tables]
    have kept := (json _ last).flatten_eq_self (finite.values _ last) form
    rw [g.settings.read_flatten, Value.object.inj kept]
  refine Outcome.bind_eq_ok_iff.2 ⟨_, payload?_view form (isPlain_of_isJson json finite),
    validate_eq_ok_iff.2 ⟨rfl, readParts_eq_ok_iff.2 ⟨?_, ?_, ?_⟩, nodup⟩⟩
  · exact Reading.fieldD_eq_ok_iff.2 (.inr ⟨_, rfl, nodes⟩)
  · exact Reading.fieldD_eq_ok_iff.2 (.inr ⟨_, rfl, edges⟩)
  · exact Reading.fieldD_eq_ok_iff.2 (.inr ⟨_, rfl, settings⟩)

/-- The widget's view of a graph has a stored form unless its properties or its variables are too
deep, and then loads as the graph, with kinds for its edges. -/
theorem view_loads (form : FlatForm) (json : g.IsJson) (finite : g.IsFinite)
    (nodup : g.nodeIds.Nodup) :
    (g.FitsWidget ∧ (Value.object g.settings.vars).nesting ≤ Value.maxDepth →
      ∃ w, g.widgetPayload? form = .ok w ∧ Upgrade.load w = .ok g.withKinds) ∧
    (¬ (g.FitsWidget ∧ (Value.object g.settings.vars).nesting ≤ Value.maxDepth) →
      g.widgetPayload? form = .error .tooDeep) := by
  have plain := isPlain_of_isJson json finite
  have stored := Settings.flatten?_of_isJson (json g.settings.vars (by simp [tables])) form
  constructor
  · rintro ⟨fits, shallow⟩
    rw [if_pos shallow] at stored
    refine ⟨_, Outcome.bind_eq_ok_iff.2 ⟨_, widgetDump?_of_fits plain fits,
      Outcome.bind_eq_ok_iff.2 ⟨_, stored, rfl⟩⟩, load_view form json finite nodup⟩
  · intro deep
    by_cases fits : g.FitsWidget
    · rw [if_neg fun shallow => deep ⟨fits, shallow⟩] at stored
      exact Outcome.bind_eq_error_iff.2 (.inr ⟨_, widgetDump?_of_fits plain fits,
        Outcome.bind_eq_error_iff.2 (.inl stored)⟩)
    · exact Outcome.bind_eq_error_iff.2 (.inl (widgetDump?_of_not_fits plain fits))

theorem view_loads_sparse :
    sparseGraph.IsJson ∧ sparseGraph.IsFinite ∧ sparseGraph.nodeIds.Nodup ∧
    ∃ w, sparseGraph.widgetPayload? .full = .ok w ∧
      Upgrade.load w = .ok sparseGraph.withKinds := by
  have json : sparseGraph.IsJson := by
    simp [IsJson, tables, sparseGraph, Settings.initial, Entries.keys]
  have finite : sparseGraph.IsFinite :=
    { positions := by simpa [sparseGraph] using by decide
      values := by simp [tables, sparseGraph, Settings.initial] }
  have nodup : sparseGraph.nodeIds.Nodup := by decide
  exact ⟨json, finite, nodup, (view_loads .full json finite nodup).1 (by decide)⟩

/-- A property that is too deep keeps the view from being loaded, and in the place of a tuple a list
is loaded. -/
theorem view_loads_fails :
    (deepGraph.IsJson ∧ deepGraph.IsFinite ∧ deepGraph.nodeIds.Nodup ∧
      ¬ ∃ w, deepGraph.widgetPayload? .full = .ok w ∧
        Upgrade.load w = .ok deepGraph.withKinds) ∧
    ((withProp (.tuple [.int 1])).nodeIds.Nodup ∧
      ¬ ∃ w, (withProp (.tuple [.int 1])).widgetPayload? .full = .ok w ∧
        Upgrade.load w = .ok (withProp (.tuple [.int 1])).withKinds) := by
  refine ⟨⟨isJson_deepGraph, isFinite_deepGraph, by decide, ?_⟩, by decide, ?_⟩
  · rintro ⟨w, stored, -⟩
    obtain ⟨view, dumped, -⟩ := Outcome.bind_eq_ok_iff.1 stored
    rw [widgetDump?_deepGraph] at dumped
    cases dumped
  · rintro ⟨w, stored, loaded⟩
    obtain rfl := Except.ok.inj stored
    cases loaded

end Graph

end EventCanvas
