import EventCanvas.Proofs.Graph.Reading
import EventCanvas.Proofs.Upgrade.Present

/-!
# Upgrades of accepted payloads

A payload that is accepted as it stands needs no upgrade, and an upgrade does it no harm: it is
accepted still, and all that is different is that presentation fields beside the properties of a
node were taken into them.

* `Upgrade.Gathers`: all that an upgrade makes of a node that was accepted.
* `Upgrade.gathers_of_read`: the upgraded node is accepted, and is just that.
* `Upgrade.load_conservative`: so is the whole payload.
-/

namespace EventCanvas.Upgrade

open Reading (field fieldD)

/-- What an upgrade makes of a node, given the payload it was read from: the same node, with the
presentation fields beside its properties added to them where they have no such entry. -/
structure Gathers (raw : Value) (n m : Node) : Prop where
  id : m.id = n.id
  component : m.component = n.component
  position : m.position = n.position
  label : m.data.label = n.data.label
  events : m.data.events = n.data.events
  props : ∀ name, Entries.lookup name (m.data.props.getD []) =
    (Entries.lookup name (n.data.props.getD [])).or
      (if name ∈ presentationFields then Entries.lookup name (dataOf raw.fields) else none)

variable {fs data : Fields} {d : NodeData}

/-! ## Properties -/

theorem lookup_misplaced (name : String) (data : Fields) :
    Entries.lookup name (misplaced data) =
      if name ∈ presentationFields then Entries.lookup name data else none := by
  unfold misplaced
  induction presentationFields with
  | nil => rfl
  | cons first names ih =>
    rw [List.filterMap_cons]
    by_cases hit : name = first
    · subst hit
      cases found : Entries.lookup name data with
      | none => simp [ih, found]
      | some v => simp [Entries.lookup_cons]
    · cases Entries.lookup first data with
      | none => simp [ih, hit]
      | some v => simp [ih, hit, Entries.lookup_cons]

theorem lookup_gatheredProps (name : String) (data : Fields) :
    Entries.lookup name (gatheredProps data) = (Entries.lookup name (propsOf data)).or
      (if name ∈ presentationFields then Entries.lookup name data else none) := by
  rw [gatheredProps, Entries.lookup_foldl_putNew, lookup_misplaced]

/-- The properties that are read are those that an upgrade finds. -/
theorem propsOf_of_read (read : NodeData.read (.object data) = .ok d) :
    propsOf data = d.props.getD [] := by
  obtain ⟨-, -, props, -⟩ := NodeData.read_eq_ok_iff.1 read
  rcases Reading.fieldD_eq_ok_iff.1 props with ⟨absent, default⟩ | ⟨v, found, read⟩
  · have absent : Entries.lookup "props" data = none := absent
    rw [propsOf, absent, ← default]
    rfl
  · have found : Entries.lookup "props" data = some v := found
    rw [propsOf, found]
    cases v with
    | null => rw [← Reading.ok.inj read]; rfl
    | object ps => rw [← Reading.ok.inj read]; rfl
    | _ => cases read

/-- The properties that are read after an upgrade are those that it gathers. -/
theorem lookup_props_gatherProps (read : NodeData.read (.object data) = .ok d) :
    ∃ props, fieldD (.object (gatherProps data)) ["props"] none
        (Reading.optional Reading.table) = .ok props ∧
      ∀ name, Entries.lookup name (props.getD []) = (Entries.lookup name (d.props.getD [])).or
        (if name ∈ presentationFields then Entries.lookup name data else none) := by
  rw [← propsOf_of_read read]
  unfold gatherProps
  split
  · next settled =>
    rw [Bool.and_eq_true, List.isEmpty_iff, Bool.not_eq_true', Entries.has,
      Option.isSome_eq_false_iff, Option.isNone_iff_eq_none] at settled
    obtain ⟨empty, absent⟩ := settled
    refine ⟨none, Reading.fieldD_eq_ok_iff.2 (.inl ⟨absent, rfl⟩), fun name => ?_⟩
    rw [← lookup_misplaced, empty, propsOf, absent]
    rfl
  · refine ⟨some (gatheredProps data), ?_, fun name => lookup_gatheredProps name data⟩
    exact Reading.fieldD_eq_ok_iff.2 (.inr ⟨_, Entries.lookup_put_self _ _ _, rfl⟩)

/-! ## Nodes -/

/-- The data of a node that was accepted are accepted after an upgrade, with more properties. -/
theorem read_gatherProps (read : NodeData.read (.object data) = .ok d) :
    ∃ props, NodeData.read (.object (gatherProps (Entries.remove "componentType" data))) =
        .ok { d with props } ∧
      ∀ name, Entries.lookup name (props.getD []) = (Entries.lookup name (d.props.getD [])).or
        (if name ∈ presentationFields then Entries.lookup name data else none) := by
  have kept {name : String} (ne : name ≠ "componentType") :
      Entries.lookup name (Entries.remove "componentType" data) = Entries.lookup name data :=
    Entries.lookup_remove_of_ne ne data
  have without : NodeData.read (.object (Entries.remove "componentType" data)) = .ok d :=
    NodeData.read_of_lookup_eq read rfl (by simp [Value.fields, kept])
  obtain ⟨props, done, found⟩ := lookup_props_gatherProps without
  refine ⟨props, ?_, fun name => ?_⟩
  · obtain ⟨-, label, -, events⟩ := NodeData.read_eq_ok_iff.1 without
    refine NodeData.read_eq_ok_iff.2 ⟨rfl, ?_, done, ?_⟩
    · exact Reading.field_of_lookup_eq label (lookup_gatherProps_of_ne (by decide) (by decide))
    · exact Reading.fieldD_of_lookup_eq events (lookup_gatherProps_of_ne (by decide) (by decide))
  · rw [found]
    split
    · next presents =>
      refine congrArg _ (kept ?_)
      rintro rfl
      revert presents
      decide
    · rfl

theorem eq_name_of_lookup {s : String} {c : Component}
    (found : Entries.lookup s Component.byName = some c) : s = c.name := by
  simp only [Component.byName, Entries.lookup_cons, Entries.lookup_nil] at found
  grind [Component.name]

/-- A node whose type and label are known keeps them. -/
theorem nodeFields_of_known {c : Component} {label : String}
    (typed : Entries.lookup "type" fs = some (.text c.name))
    (there : Entries.lookup "data" fs = some (.object data))
    (labelled : Entries.lookup "label" data = some (.text label)) :
    nodeFields fs =
      Entries.put "data" (.object (gatherProps (Entries.remove "componentType" data))) fs := by
  have inside : dataOf fs = data := dataOf_of_lookup there
  have found : fieldOrNull "label" (gatherProps (Entries.remove "componentType" data)) =
      .text label := by
    rw [fieldOrNull, lookup_gatherProps_of_ne (by decide) (by decide),
      Entries.lookup_remove_of_ne (by decide), labelled]
    rfl
  unfold nodeFields
  rw [renameType_of_known typed, adoptType_of_known typed, inside]
  simp only [addLabel, found]
  rfl

/-- A node that was accepted is accepted after an upgrade, with more properties. -/
theorem gathers_of_read {raw : Value} (json : raw.IsJson) {n : Node}
    (read : Node.read raw = .ok n) :
    ∃ m, Node.read (Upgrade.node raw) = .ok m ∧ Gathers raw n m := by
  obtain ⟨admitted, id, component, position, inner⟩ := Node.read_eq_ok_iff.1 read
  obtain ⟨fs, rfl⟩ := Reading.eq_object_of_admits json admitted
  obtain ⟨t, typed, named⟩ := Reading.field_eq_ok_iff.1 component
  obtain ⟨v, there, dataRead⟩ := Reading.field_eq_ok_iff.1 inner
  obtain ⟨data, rfl⟩ := Reading.eq_object_of_admits (json.of_lookup there)
    (NodeData.read_eq_ok_iff.1 dataRead).1
  obtain ⟨s, rfl, found⟩ := Reading.oneOf_eq_ok_iff.1 named
  obtain rfl := eq_name_of_lookup found
  obtain ⟨l, labelled, text⟩ := Reading.field_eq_ok_iff.1 (NodeData.read_eq_ok_iff.1 dataRead).2.1
  obtain ⟨label, rfl⟩ : ∃ label, l = .text label := by
    cases l with
    | text label => exact ⟨label, rfl⟩
    | _ => cases text
  obtain ⟨props, done, found⟩ := read_gatherProps dataRead
  have fields : nodeFields fs = Entries.put "data"
      (.object (gatherProps (Entries.remove "componentType" data))) fs :=
    nodeFields_of_known typed there labelled
  have kept {name : String} (ne : name ≠ "data") :
      Entries.lookup name (nodeFields fs) = Entries.lookup name fs := by
    rw [fields, Entries.lookup_put_of_ne ne]
  refine ⟨{ n with data := { n.data with props } }, ?_, ⟨rfl, rfl, rfl, rfl, rfl, ?_⟩⟩
  · have data : field (Upgrade.node (.object fs)) "data" NodeData.read =
        .ok { n.data with props } := by
      refine Reading.field_eq_ok_iff.2 ⟨_, ?_, done⟩
      show Entries.lookup "data" (nodeFields fs) = _
      rw [fields, Entries.lookup_put_self]
    exact Node.read_eq_ok_iff.2 ⟨rfl, Reading.field_of_lookup_eq id (kept (by decide)),
      Reading.field_of_lookup_eq component (kept (by decide)),
      Reading.field_of_lookup_eq position (kept (by decide)), data⟩
  · have inside : dataOf fs = data := dataOf_of_lookup there
    exact fun name => inside.symm ▸ found name

/-- Nodes that were accepted are accepted after an upgrade, by induction on their row. -/
theorem gathers_of_read_list {raws : List Value} (json : ∀ x ∈ raws, x.IsJson) {nodes : List Node}
    (read : List.Forall₂ (fun x n => Node.read x = .ok n) raws nodes) :
    ∃ upgraded, List.Forall₂ (fun x m => Node.read x = .ok m) (raws.map Upgrade.node) upgraded ∧
      List.Forall₂ (fun p m => Gathers p.1 p.2 m) (raws.zip nodes) upgraded := by
  induction read with
  | nil => exact ⟨[], .nil, .nil⟩
  | @cons x n raws nodes first _ ih =>
    rw [List.forall_mem_cons] at json
    obtain ⟨m, here, gathers⟩ := gathers_of_read json.1 first
    obtain ⟨ms, rest, gathered⟩ := ih json.2
    exact ⟨m :: ms, .cons here rest, .cons gathers gathered⟩

/-! ## Payloads -/

theorem parts_of_nodes {xs : List Value} (listed : Entries.lookup "nodes" fs = some (.list xs)) :
    parts fs = [("nodes", .list (xs.map Upgrade.node)), ("edges", listOrEmpty "edges" fs),
      ("settings", tableOrEmpty "settings" fs)] := by
  have nodes : nodesOf? fs = some xs := by
    rw [nodesOf?, listed]
  rw [parts, nodes]

theorem read_edges (json : (Value.object fs).IsJson) {edges : List Edge}
    (read : fieldD (.object fs) ["edges"] [] (Reading.list Edge.read) = .ok edges) :
    Reading.list Edge.read (listOrEmpty "edges" fs) = .ok edges := by
  rcases Reading.fieldD_eq_ok_iff.1 read with ⟨absent, rfl⟩ | ⟨v, found, read⟩
  · have absent : Entries.lookup "edges" fs = none := absent
    rw [listOrEmpty, absent]
    rfl
  · have found : Entries.lookup "edges" fs = some v := found
    cases json.of_lookup found with
    | list items => rwa [listOrEmpty, found]
    | _ => cases read

theorem read_settings (json : (Value.object fs).IsJson) {settings : Settings}
    (read : fieldD (.object fs) ["settings"] Settings.initial Settings.read = .ok settings) :
    Settings.read (tableOrEmpty "settings" fs) = .ok settings := by
  rcases Reading.fieldD_eq_ok_iff.1 read with ⟨absent, rfl⟩ | ⟨v, found, read⟩
  · have absent : Entries.lookup "settings" fs = none := absent
    rw [tableOrEmpty, absent]
    rfl
  · have found : Entries.lookup "settings" fs = some v := found
    obtain ⟨ss, rfl⟩ := Reading.eq_object_of_admits (json.of_lookup found)
      (Reading.shaped_eq_ok_iff.1 read).1
    rwa [tableOrEmpty, found]

theorem ids_of_gathers {raws : List (Value × Node)} {nodes : List Node}
    (gathers : List.Forall₂ (fun p m => Gathers p.1 p.2 m) raws nodes) :
    nodes.map Node.id = raws.map fun p => p.2.id := by
  induction gathers with
  | nil => rfl
  | cons first _ ih => rw [List.map_cons, List.map_cons, ih, first.id]

/-- An upgrade is conservative.  A payload with a list of nodes that is accepted as it stands is
accepted after an upgrade, with the same edges and settings and, one for one, the same nodes but for
the presentation fields that were taken into their properties. -/
theorem load_conservative (json : (Value.object fs).IsJson) {xs : List Value}
    (listed : Entries.lookup "nodes" fs = some (.list xs)) {v : Graph}
    (valid : Graph.validate (.object fs) = .ok v) :
    ∃ w, load (.object fs) = .ok w ∧ w.edges = v.edges ∧ w.settings = v.settings ∧
      xs.length = v.nodes.length ∧ w.nodes.length = v.nodes.length ∧
      List.Forall₂ (fun p m => Gathers p.1 p.2 m) (xs.zip v.nodes) w.nodes := by
  obtain ⟨-, parts, distinct⟩ := Graph.validate_eq_ok_iff.1 valid
  obtain ⟨nodes, edges, settings⟩ := Graph.readParts_eq_ok_iff.1 parts
  have nodes : List.Forall₂ (fun x n => Node.read x = .ok n) xs v.nodes := by
    rcases Reading.fieldD_eq_ok_iff.1 nodes with ⟨absent, -⟩ | ⟨l, found, read⟩
    · cases listed.symm.trans absent
    · cases listed.symm.trans found
      exact Reading.itemsFrom_eq_ok_iff.1 read
  obtain ⟨upgraded, read, gathers⟩ :=
    gathers_of_read_list (Value.isJson_list_iff.1 (json.of_lookup listed)) nodes
  have lengths : xs.length = v.nodes.length := nodes.length_eq
  have same_length : upgraded.length = v.nodes.length := by
    rw [← gathers.length_eq, List.length_zip, lengths, Nat.min_self]
  have same_ids : upgraded.map Node.id = v.nodeIds := by
    have second : (xs.zip v.nodes).map Prod.snd = v.nodes :=
      List.map_snd_zip (Nat.le_of_eq lengths.symm)
    rw [ids_of_gathers gathers]
    exact (List.map_map (f := Prod.snd) (g := Node.id)).symm.trans (congrArg _ second)
  obtain ⟨rest, grown, -⟩ := payloadFields_eq_append fs
  rw [parts_of_nodes listed] at grown
  refine ⟨⟨upgraded, v.edges, v.settings⟩, ?_, rfl, rfl, lengths, same_length, gathers⟩
  show (payload? (.object fs)).bind Graph.validate = _
  rw [payload?_of_isJson json]
  show Graph.validate (.object (payloadFields fs)) = _
  refine Graph.validate_eq_ok_iff.2 ⟨rfl, Graph.readParts_eq_ok_iff.2 ⟨?_, ?_, ?_⟩, ?_⟩
  · refine Reading.fieldD_eq_ok_iff.2 (.inr ⟨.list (xs.map Upgrade.node), ?_, ?_⟩)
    · exact grown ▸ rfl
    · exact Reading.itemsFrom_eq_ok_iff.2 read
  · exact Reading.fieldD_eq_ok_iff.2 (.inr ⟨_, grown ▸ rfl, read_edges json edges⟩)
  · exact Reading.fieldD_eq_ok_iff.2 (.inr ⟨_, grown ▸ rfl, read_settings json settings⟩)
  · show (upgraded.map Node.id).Nodup
    rw [same_ids]
    exact distinct

/-- An accepted payload with presentation fields beside the properties, one of which is there
already, and with properties that are null. -/
def halfwayFields : Fields :=
  let position := Value.object [("x", .int 1), ("y", .int 2)]
  [("nodes", .list
    [.object
      [("id", .text "t"), ("type", .text "text"), ("position", position),
        ("data", .object
          [("color", .text "blue"), ("label", .text "Hi"), ("componentType", .text "slider"),
            ("props", .object [("color", .text "red"), ("size", .int 3)]), ("type", .null)])],
      .object
        [("data", .object [("props", .null), ("label", .text "Go")]), ("id", .text "b"),
          ("type", .text "button"), ("position", position)]]),
    ("settings", .object [("theme", .text "dark")])]

/-- The graph in that payload as it stands. -/
def halfwayGraph : Graph :=
  let position : Position := ⟨Double.ofRatio false 1 1, Double.ofRatio false 2 1⟩
  ⟨[⟨"t", .text, position, ⟨"Hi", some [("color", .text "red"), ("size", .int 3)], none⟩⟩,
      ⟨"b", .button, position, ⟨"Go", none, none⟩⟩], [], ⟨.dark, false, []⟩⟩

theorem load_conservative_halfway :
    (Value.object halfwayFields).IsJson ∧
    Graph.validate (.object halfwayFields) = .ok halfwayGraph ∧
    ∃ xs w, Entries.lookup "nodes" halfwayFields = some (.list xs) ∧
      load (.object halfwayFields) = .ok w ∧ w.edges = [] ∧
      w.settings = halfwayGraph.settings ∧
      List.Forall₂ (fun p m => Gathers p.1 p.2 m) (xs.zip halfwayGraph.nodes) w.nodes := by
  have json : (Value.object halfwayFields).IsJson := by simp [halfwayFields, Entries.keys]
  have valid : Graph.validate (.object halfwayFields) = .ok halfwayGraph := by rfl
  obtain ⟨w, loaded, edges, settings, -, -, nodes⟩ := load_conservative json rfl valid
  exact ⟨json, valid, _, w, rfl, loaded, edges, settings, nodes⟩

end EventCanvas.Upgrade
