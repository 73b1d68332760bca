import EventCanvas.Proofs.Graph.Reading
import EventCanvas.Proofs.Table
import EventCanvas.Proofs.Widget.Dump

/-!
# To the widget and back

The widget adds fields of its own to the nodes and the edges it was handed, and to the data of the
nodes.  A graph that is rebuilt from them depends on none of these: of each node and each edge only
the declared fields are read.  The settings never go to the widget.  They are copied from the graph
that is rebuilt, and where they cannot be copied nothing is.

* `WidgetNode.nodeOf_decorated`, `WidgetEdge.edgeOf_decorated`: what is rebuilt from a node or an
  edge, whatever was added to it.
* `Graph.ofWidget_of_copyFault`: settings that cannot be copied keep a graph from being rebuilt.
* `Graph.round_trip_lossless`: a graph comes back with its nulls filled, and from then on as it is.
-/

namespace EventCanvas

/-! ## What comes back -/

/-- The data of a node with empty properties and no handlers in the place of nulls. -/
def NodeData.filled (d : NodeData) : NodeData :=
  ⟨d.label, some (d.props.getD []), some (d.events.getD [])⟩

/-- A node with its data filled. -/
def Node.filled (n : Node) : Node := { n with data := n.data.filled }

/-- An edge of the default kind, if it has none or an empty one. -/
def Edge.filled (e : Edge) : Edge :=
  { e with kind := if e.kind.getD "" = "" then some "default" else e.kind }

/-- A graph with its nodes and its edges filled. -/
def Graph.filled (g : Graph) : Graph :=
  ⟨g.nodes.map Node.filled, g.edges.map Edge.filled, g.settings⟩

/-! ## What the widget adds -/

/-- Two tables have the same under some names. -/
def AgreeOn (names : List String) (fs more : Fields) : Prop :=
  ∀ name ∈ names, Entries.lookup name more = Entries.lookup name fs

theorem AgreeOn.nil {fs more : Fields} : AgreeOn [] fs more := nofun

theorem AgreeOn.cons {name : String} {names : List String} {fs more : Fields}
    (here : Entries.lookup name more = Entries.lookup name fs) (rest : AgreeOn names fs more) :
    AgreeOn (name :: names) fs more :=
  List.forall_mem_cons.2 ⟨here, rest⟩

/-- A node that was handed to the widget, and the node with further fields and further fields in
its data. -/
inductive WidgetNode.Decorates : Value → Value → Prop
  | intro {fs more data moreData : Fields} (own : AgreeOn ["id", "type", "position"] fs more)
    (handed : Entries.lookup "data" fs = some (.object data))
    (given : Entries.lookup "data" more = some (.object moreData))
    (inside : AgreeOn ["label", "props", "events", "componentType"] data moreData) :
    Decorates (.object fs) (.object more)

/-- An edge that was handed to the widget, and the edge with further fields and any handles. -/
inductive WidgetEdge.Decorates : Value → Value → Prop
  | intro {fs more : Fields} (own : AgreeOn ["id", "source", "target", "type"] fs more)
    (handles : ∀ name ∈ sourceHandleNames ++ targetHandleNames, ∀ v,
      Entries.lookup name more = some v → ∃ s, v = .ofText? s) :
    Decorates (.object fs) (.object more)

/-! ## Reading the data of a node -/

theorem Handler.read_storedForm (h : Handler) : Handler.read h.storedForm = .ok h := by
  rw [← h.flatten_toValue true]
  exact h.read_flatten .compact

namespace WidgetNode

variable {w : WidgetNode} {c : Component} {d : NodeData}
  (agree : AgreeOn ["label", "props", "events", "componentType"] (d.widgetFields c) w.data)

include agree

theorem component_of_agree : w.component = c := by
  have named : Entries.lookup "componentType" (d.widgetFields c) = some (.text c.name) := by
    rcases d with ⟨label, _ | ps, _ | hs⟩ <;> rfl
  have known : Component.ofValue? (.text c.name) = some c := Component.ofName?_name c
  rw [component, agree "componentType" (by simp), named, Option.bind_some, known]

theorem label_of_agree : w.label = .ok d.label := by
  have labelled : w.datum "label" = .text d.label := by
    rw [datum, agree "label" (by simp)]
    rcases d with ⟨label, _ | ps, _ | hs⟩ <;> rfl
  rw [label, labelled]
  by_cases empty : d.label = ""
  · rw [empty]
    rfl
  · rw [if_pos (by simpa [Value.truthy] using empty)]
    rfl

theorem parts_of_agree :
    w.parts = .ok (Table.ofFields (d.props.getD []),
      (d.events.getD []).map Handler.storedForm) := by
  have props : w.datum "props" = (d.props.map .object).getD .null := by
    rw [datum, agree "props" (by simp)]
    rcases d with ⟨label, _ | ps, _ | hs⟩ <;> rfl
  have events : w.datum "events" =
      (d.events.map fun hs => .list (hs.map Handler.storedForm)).getD .null := by
    rw [datum, agree "events" (by simp)]
    rcases d with ⟨label, _ | ps, _ | hs⟩ <;> rfl
  rw [parts, props, events]
  rcases d with ⟨label, _ | _ | ⟨p, ps⟩, _ | _ | ⟨h, hs⟩⟩ <;> rfl

/-- From the widget's data for a node its data comes back. -/
theorem toNode_of_agree : w.toNode = .ok ⟨w.id, c, w.position, d.filled⟩ := by
  have handlers : Reading.itemsFrom Handler.read 0 ((d.events.getD []).map Handler.storedForm) =
      .ok (d.events.getD []) :=
    (Reading.list_map fun h _ => h.read_storedForm).trans (congrArg _ (List.map_id _))
  have data : w.nodeData (Table.ofFields (d.props.getD []))
      ((d.events.getD []).map Handler.storedForm) = .ok d.filled := by
    rw [nodeData, label_of_agree agree, Reading.namedTable_ofFields, handlers]
    rfl
  rw [toNode, component_of_agree agree, Outcome.bind_eq_ok_iff]
  refine ⟨_, parts_of_agree agree, ?_⟩
  simp only [data]
  rfl

end WidgetNode

/-! ## Reading a node and an edge -/

/-- Whatever was added to a node of the widget, the node comes back. -/
theorem WidgetNode.nodeOf_decorated {n : Node} {w : Value} (decorated : Decorates n.widgetForm w) :
    nodeOf w = .ok n.filled := by
  rw [Node.widgetForm] at decorated
  obtain @⟨_, more, data, moreData, own, handed, given, inside⟩ := decorated
  obtain rfl : n.data.widgetFields n.component = data := by simpa [Entries.lookup] using handed
  have read_eq : WidgetNode.read (.object more) = .ok
      ⟨n.id, rendererFor (.text n.component.name), n.position, moreData,
        (Value.object more).extraFields ["id", "type", "position", "data"]⟩ := by
    refine Reading.shaped_eq_ok_iff.2 ⟨rfl, Reading.map_seq_seq_seq_eq_ok_iff.2
      ⟨_, _, _, _, ?_, ?_, ?_, ?_, rfl⟩⟩
    · exact Reading.field_eq_ok_iff.2 ⟨_, own "id" (by simp), rfl⟩
    · exact Reading.fieldD_eq_ok_iff.2 (.inr ⟨_, own "type" (by simp), rfl⟩)
    · exact Reading.field_eq_ok_iff.2
        ⟨_, own "position" (by simp), n.position.read_flatten .compact⟩
    · exact Reading.fieldD_eq_ok_iff.2 (.inr ⟨_, given, rfl⟩)
  rw [nodeOf, read_eq]
  exact toNode_of_agree inside

theorem Reading.mem_of_present?_eq_some {owner v : Value} {name : String} {names : List String}
    (found : present? owner names = some (name, v)) : name ∈ names := by
  induction names with
  | nil => cases found
  | cons first names ih =>
    unfold present? at found
    split at found
    · cases found
      exact List.mem_cons_self
    · exact List.mem_cons_of_mem first (ih found)

/-- A handle is read, under whichever of its names it is given. -/
theorem WidgetEdge.exists_handle {fs : Fields} {names : List String}
    (handles : ∀ name ∈ names, ∀ v, Entries.lookup name fs = some v → ∃ s, v = .ofText? s) :
    ∃ s, Reading.fieldD (.object fs) names none (Reading.optional Reading.text) = .ok s := by
  unfold Reading.fieldD
  split
  · next name v found =>
    obtain ⟨s, rfl⟩ := handles name (Reading.mem_of_present?_eq_some found) v
      (Reading.lookup_of_present?_eq_some found)
    cases s <;> exact ⟨_, rfl⟩
  · exact ⟨none, rfl⟩

theorem WidgetEdge.toEdge_ofEdge (e : Edge) : (ofEdge e).toEdge = e.filled := by
  rcases e with ⟨id, source, target, _ | kind⟩
  · rfl
  · by_cases empty : kind = "" <;> simp [ofEdge, toEdge, Edge.filled, empty]

/-- Whatever was added to an edge of the widget, the edge comes back. -/
theorem WidgetEdge.edgeOf_decorated {form : FlatForm} {e : Edge} {w : Value}
    (decorated : Decorates (e.widgetForm form) w) : edgeOf w = .ok e.filled := by
  obtain ⟨fs, handed, id, source, target, kind⟩ : ∃ fs, e.widgetForm form = .object fs ∧
      Entries.lookup "id" fs = some (.text e.id) ∧
      Entries.lookup "source" fs = some (.text e.source) ∧
      Entries.lookup "target" fs = some (.text e.target) ∧
      Entries.lookup "type" fs = some (.text (ofEdge e).kind) := by
    rcases form with ⟨_ | _, _ | _⟩ <;> exact ⟨_, rfl, rfl, rfl, rfl, rfl⟩
  rw [handed] at decorated
  obtain @⟨_, more, own, handles⟩ := decorated
  have text {name s : String} (declared : name ∈ ["id", "source", "target", "type"])
      (found : Entries.lookup name fs = some (.text s)) :
      Reading.field (.object more) name Reading.text = .ok s :=
    Reading.field_eq_ok_iff.2 ⟨_, (own name declared).trans found, rfl⟩
  have typed : Reading.fieldD (.object more) ["type"] "default" Reading.text =
      .ok (ofEdge e).kind :=
    Reading.fieldD_eq_ok_iff.2 (.inr ⟨_, (own "type" (by simp)).trans kind, rfl⟩)
  obtain ⟨sourceHandle, first⟩ := exists_handle fun name member =>
    handles name (List.mem_append_left targetHandleNames member)
  obtain ⟨targetHandle, second⟩ := exists_handle fun name member =>
    handles name (List.mem_append_right sourceHandleNames member)
  have read_eq : WidgetEdge.read (.object more) = .ok
      { ofEdge e with
        sourceHandle := sourceHandle
        targetHandle := targetHandle
        extra := (Value.object more).extraFields (ownNames (.object more)) } := by
    refine Reading.shaped_eq_ok_iff.2 ⟨rfl, ?_⟩
    rw [text (by simp) id, text (by simp) source, text (by simp) target, typed, first, second]
    rfl
  rw [edgeOf, read_eq, ← toEdge_ofEdge]
  rfl

/-! ## The whole graph -/

namespace Graph

/-- What the widget makes of a graph, whatever it adds, comes back as another graph. -/
def ComesBackAs (form : FlatForm) (g h : Graph) : Prop :=
  ∃ nodes edges, g.widgetDump? form = .ok (nodes, edges) ∧
    ∀ nodes' edges', List.Forall₂ WidgetNode.Decorates nodes nodes' →
      List.Forall₂ WidgetEdge.Decorates edges edges' →
      ofWidget nodes' edges' (some g) = .ok h

variable {form : FlatForm} {g : Graph}

theorem nodeIds_filled (g : Graph) : g.filled.nodeIds = g.nodeIds := by
  show (g.nodes.map Node.filled).map Node.id = g.nodes.map Node.id
  rw [List.map_map]
  rfl

theorem ofWidget_of_copyFault {f : Fault} (kept : g.settings.toValue.copyFault? = some f)
    (nodes edges : List Value) : ofWidget nodes edges (some g) = .error f := by
  have failed : baseSettings (some g) = .error f := by
    rw [baseSettings, kept]
    rfl
  exact Outcome.bind_eq_error_iff.2 (.inl failed)

theorem comesBackAs_filled (plain : g.IsPlain) (nodup : g.nodeIds.Nodup) (fits : g.FitsWidget)
    (copyable : g.settings.toValue.copyFault? = none) : g.ComesBackAs form g.filled := by
  refine ⟨_, _, widgetDump?_of_fits plain fits, fun nodes' edges' nodes edges => ?_⟩
  have nodes_back : nodes'.mapM WidgetNode.nodeOf = .ok (g.nodes.map Node.filled) := by
    rw [List.forall₂_map_left_iff] at nodes
    rw [Outcome.mapM_eq_ok_iff, List.forall₂_map_right_iff]
    exact (nodes.imp fun _ _ => WidgetNode.nodeOf_decorated).flip
  have edges_back : edges'.mapM WidgetEdge.edgeOf = .ok (g.edges.map Edge.filled) := by
    rw [List.forall₂_map_left_iff] at edges
    rw [Outcome.mapM_eq_ok_iff, List.forall₂_map_right_iff]
    exact (edges.imp fun _ _ => WidgetEdge.edgeOf_decorated).flip
  have distinct : g.filled.nodeIds.Nodup := by
    rw [nodeIds_filled]
    exact nodup
  have accepted : ofParts (g.nodes.map Node.filled) (g.edges.map Edge.filled) g.settings =
      .ok g.filled := checkIds_eq_ok_iff.2 ⟨rfl, distinct⟩
  have settings : baseSettings (some g) = .ok g.settings := by
    rw [baseSettings, copyable]
    rfl
  refine Outcome.bind_eq_ok_iff.2 ⟨_, settings, Outcome.bind_eq_ok_iff.2 ⟨_, nodes_back,
    Outcome.bind_eq_ok_iff.2 ⟨_, edges_back, ?_⟩⟩⟩
  simp only [accepted]
  rfl

theorem isPlain_filled (plain : g.IsPlain) : g.filled.IsPlain := by
  refine List.forall_mem_map.2 fun n member => ?_
  rcases found : n.data.props with _ | ps
  · constructor <;> simp [Node.filled, NodeData.filled, found]
  · have json := (plain n member).json ps found
    have finite := (plain n member).finite ps found
    constructor <;> simpa only [Node.filled, NodeData.filled, found, Option.getD_some,
      Option.mem_some_iff, forall_eq']

theorem fitsWidget_filled (fits : g.FitsWidget) : g.filled.FitsWidget := by
  refine List.forall_mem_map.2 fun n member ps props => ?_
  obtain rfl : n.data.props.getD [] = ps := Option.some.inj props
  rcases found : n.data.props with _ | ps
  · decide
  · exact fits n member ps found

theorem filled_filled (g : Graph) : g.filled.filled = g.filled := by
  have nodes : (g.nodes.map Node.filled).map Node.filled = g.nodes.map Node.filled := by
    rw [List.map_map]
    rfl
  have edges : (g.edges.map Edge.filled).map Edge.filled = g.edges.map Edge.filled := by
    rw [List.map_map]
    refine List.map_congr_left fun e _ => ?_
    by_cases empty : e.kind.getD "" = "" <;> simp [Edge.filled, empty]
  show Graph.mk ((g.nodes.map Node.filled).map Node.filled)
    ((g.edges.map Edge.filled).map Edge.filled) g.settings = _
  rw [nodes, edges]
  rfl

/-- A graph with plain properties comes back from the widget with its nulls filled, whatever the
widget adds, and from then on as it is, if its settings can be copied.  If its properties are too
deep, the widget is handed nothing.  If its settings cannot be copied, it is not rebuilt from
anything. -/
theorem round_trip_lossless (form : FlatForm) (plain : g.IsPlain) (nodup : g.nodeIds.Nodup) :
    (g.FitsWidget → g.settings.toValue.copyFault? = none →
        g.ComesBackAs form g.filled ∧ g.filled.ComesBackAs form g.filled) ∧
      (¬ g.FitsWidget → g.widgetDump? form = .error .tooDeep) ∧
      ∀ f, g.settings.toValue.copyFault? = some f →
        ∀ nodes edges, ofWidget nodes edges (some g) = .error f := by
  refine ⟨fun fits copyable => ⟨comesBackAs_filled plain nodup fits copyable, ?_⟩,
    widgetDump?_of_not_fits plain, fun f kept => ofWidget_of_copyFault kept⟩
  have distinct : g.filled.nodeIds.Nodup := by
    rw [nodeIds_filled]
    exact nodup
  have again : g.filled.ComesBackAs form g.filled.filled :=
    comesBackAs_filled (isPlain_filled plain) distinct (fitsWidget_filled fits) copyable
  rwa [filled_filled] at again

/-- Two components and an edge, with nulls for properties, for handlers and for a kind. -/
def sparseGraph : Graph :=
  ⟨[⟨"a", .button, ⟨.zero false, .zero false⟩,
        ⟨"Go", none, some [⟨.click, ⟨.setText, some "b", "hi"⟩⟩]⟩⟩,
      ⟨"b", .text, ⟨.zero false, .zero true⟩, ⟨"", some [("size", .int 3)], none⟩⟩],
    [⟨"e", "a", "b", none⟩], Settings.initial⟩

/-- The nodes of that graph as the widget gives them back. -/
def sparseNodes : List Value :=
  [.object
      [("selected", .bool true), ("id", .text "a"), ("type", .text "buttonNode"),
        ("position", .object [("x", .float (.zero false)), ("y", .float (.zero false))]),
        ("data", .object
          [("label", .text "Go"), ("events", .list [.object
              [("type", .text "onClick"), ("action", .object
                [("target", .text "b"), ("value", .text "hi"), ("type", .text "setText")])]]),
            ("componentType", .text "button"), ("hovered", .null)])],
    .object
      [("id", .text "b"), ("type", .text "textNode"),
        ("position", .object [("x", .float (.zero false)), ("y", .float (.zero true))]),
        ("data", .object
          [("label", .text ""), ("props", .object [("size", .int 3)]),
            ("componentType", .text "text")]),
        ("measured", .object [("width", .int 80)])]]

/-- The edge of that graph as the widget gives it back. -/
def sparseEdges : List Value :=
  [.object
    [("id", .text "e"), ("source", .text "a"), ("target", .text "b"), ("type", .text "default"),
      ("sourceHandle", .text "out"), ("targetHandle", .null), ("animated", .bool false)]]

theorem round_trip_lossless_sparse :
    sparseGraph.IsPlain ∧ sparseGraph.nodeIds.Nodup ∧ sparseGraph.FitsWidget ∧
      sparseGraph.settings.toValue.copyFault? = none ∧
      ofWidget sparseNodes sparseEdges (some sparseGraph) = .ok sparseGraph.filled := by
  have plain : sparseGraph.IsPlain := by
    refine List.forall_mem_cons.2 ⟨⟨?_, ?_⟩, List.forall_mem_singleton.2 ⟨?_, ?_⟩⟩ <;>
      simp [Entries.keys]
  have nodup : sparseGraph.nodeIds.Nodup := by decide
  have fits : sparseGraph.FitsWidget := by decide
  have copyable : sparseGraph.settings.toValue.copyFault? = none := by rfl
  obtain ⟨nodes, edges, dumped, back⟩ :=
    ((round_trip_lossless .full plain nodup).1 fits copyable).1
  rw [widgetDump?_of_fits plain fits] at dumped
  cases dumped
  refine ⟨plain, nodup, fits, copyable, back _ _ ?_ ?_⟩
  · have first : WidgetNode.Decorates sparseGraph.nodes[0].widgetForm sparseNodes[0] :=
      .intro (.cons rfl (.cons rfl (.cons rfl .nil))) rfl rfl
        (.cons rfl (.cons rfl (.cons rfl (.cons rfl .nil))))
    have second : WidgetNode.Decorates sparseGraph.nodes[1].widgetForm sparseNodes[1] :=
      .intro (.cons rfl (.cons rfl (.cons rfl .nil))) rfl rfl
        (.cons rfl (.cons rfl (.cons rfl (.cons rfl .nil))))
    exact .cons first (.cons second .nil)
  · have handles : ∀ name ∈ WidgetEdge.sourceHandleNames ++ WidgetEdge.targetHandleNames, ∀ v,
        Entries.lookup name sparseEdges[0].fields = some v → ∃ s, v = .ofText? s := by
      simp only [WidgetEdge.sourceHandleNames, WidgetEdge.targetHandleNames, List.cons_append,
        List.nil_append, List.forall_mem_cons]
      have absent {v : Value} {P : Prop} (given : (none : Option Value) = some v) : P := by
        cases given
      refine ⟨fun v given => ⟨some "out", ?_⟩, fun _ => absent, fun v given => ⟨none, ?_⟩,
        fun _ => absent, List.forall_mem_nil _⟩ <;> exact (Option.some.inj given).symm
    have only : WidgetEdge.Decorates (sparseGraph.edges[0].widgetForm .full) sparseEdges[0] :=
      .intro (.cons rfl (.cons rfl (.cons rfl (.cons rfl .nil)))) handles
    exact .cons only .nil

/-- A graph without nodes and with a variable that cannot be copied. -/
def uncopyableGraph : Graph :=
  let held : Value := .record [("__dataclass_fields__", .object []), ("__deepcopy__", .int 1)]
  ⟨[], [], { Settings.initial with vars := [("v", held)] }⟩

/-- A property that is too deep does not come back, neither does a tuple, and nothing does with a
variable that cannot be copied. -/
theorem round_trip_lossless_fails :
    (deepGraph.IsPlain ∧ deepGraph.nodeIds.Nodup ∧
      ¬ deepGraph.ComesBackAs .full deepGraph.filled) ∧
    ((withProp (.tuple [.int 1])).nodeIds.Nodup ∧
      ¬ (withProp (.tuple [.int 1])).ComesBackAs .full (withProp (.tuple [.int 1])).filled) ∧
    (uncopyableGraph.IsPlain ∧ uncopyableGraph.nodeIds.Nodup ∧
      ¬ uncopyableGraph.ComesBackAs .full uncopyableGraph.filled) := by
  refine ⟨⟨isPlain_deepGraph, by decide, ?_⟩, ⟨by decide, ?_⟩, ⟨nofun, by decide, ?_⟩⟩
  · rintro ⟨nodes, edges, dumped, -⟩
    rw [widgetDump?_deepGraph] at dumped
    cases dumped
  · rintro ⟨nodes, edges, dumped, back⟩
    obtain ⟨rfl, rfl⟩ := Prod.mk.inj (Except.ok.inj dumped)
    -- The widget is handed a list in the place of the tuple.
    let handed : Value := (withProp (.list [.int 1])).nodes[0].widgetForm
    have undecorated : WidgetNode.Decorates handed handed :=
      .intro (.cons rfl (.cons rfl (.cons rfl .nil))) rfl rfl
        (.cons rfl (.cons rfl (.cons rfl (.cons rfl .nil))))
    have given := back _ _ (.cons undecorated .nil) .nil
    cases given
  · rintro ⟨nodes, edges, dumped, back⟩
    obtain ⟨rfl, rfl⟩ := Prod.mk.inj (Except.ok.inj dumped)
    have given := back [] [] .nil .nil
    cases given

end Graph

end EventCanvas
