import EventCanvas.Proofs.Graph.Storage
import EventCanvas.Proofs.Upgrade.Conservative

/-!
# Payloads with explicit nulls

A graph can also be stored with the fields that are null, and is accepted in that form too.  There
an upgrade changes one thing: a node that has no properties is given an empty table of them, while
its events, the targets of actions and the kinds of edges may stay null.

* `Node.upgrade_full`: what an upgrade makes of a node.
* `Graph.equal_withProps_iff`: that is no change exactly where every node has properties.
* `Graph.full_settled_unless_bare`: so an upgrade leaves the payload of such a graph alone and notes
  nothing, and rewrites and notes that of any other.
-/

namespace EventCanvas

open Value (flattenItems flattenEntries)

/-! ## Nodes without properties -/

/-- A node has no properties, not even an empty table. -/
def Node.IsBare (n : Node) : Prop := n.data.props = none

instance (n : Node) : Decidable n.IsBare := inferInstanceAs (Decidable (n.data.props = none))

/-- A node with an empty table of properties, if it had none. -/
def Node.withProps (n : Node) : Node :=
  { n with data := { n.data with props := some (n.data.props.getD []) } }

theorem Node.withProps_eq_self {n : Node} (given : ¬ n.IsBare) : n.withProps = n := by
  rcases n with ⟨id, component, position, ⟨label, _ | ps, events⟩⟩
  · exact absurd rfl given
  · rfl

/-- The fields that the data of a node is stored with, those that are null included. -/
def NodeData.fullFields (d : NodeData) : Fields :=
  [("label", .text d.label),
    ("props", (d.props.map fun ps => .object (flattenEntries .full ps)).getD .null),
    ("events",
      (d.events.map fun hs => .list (flattenItems .full (hs.map Handler.toValue))).getD .null)]

theorem Node.flatten_full (n : Node) : n.toValue.flatten .full = .object
    [("id", .text n.id), ("type", .text n.component.name),
      ("position", n.position.toValue.flatten .full), ("data", .object n.data.fullFields)] := by
  rcases n with ⟨id, component, position, ⟨label, _ | ps, _ | hs⟩⟩ <;> rfl

/-! ## Upgrading them -/

/-- An upgrade puts an empty table for properties that are null. -/
theorem NodeData.gatherProps_fullFields (n : Node) :
    Upgrade.gatherProps (Entries.remove "componentType" n.data.fullFields) =
      n.withProps.data.fullFields := by
  rcases n with ⟨id, component, position, ⟨label, _ | ps, events⟩⟩ <;> rfl

theorem Node.upgrade_full (n : Node) :
    Upgrade.node (n.toValue.flatten .full) = n.withProps.toValue.flatten .full := by
  rw [flatten_full, flatten_full]
  show Value.object (Upgrade.nodeFields _) = _
  rw [Upgrade.nodeFields_of_known rfl rfl rfl, NodeData.gatherProps_fullFields]
  rfl

theorem Node.nodeNote?_full (n : Node) : Upgrade.nodeNote? (n.toValue.flatten .full) = none := by
  rw [flatten_full]
  rfl

/-- A table of properties is not equal to null. -/
theorem Node.not_isBare_of_equal {n : Node}
    (same : (n.withProps.toValue.flatten .full).equal (n.toValue.flatten .full) = true) :
    ¬ n.IsBare := by
  intro bare
  rw [flatten_full, flatten_full] at same
  have data := Value.equal_of_lookup "data" same rfl rfl
  have props := Value.equal_of_lookup "props" data rfl rfl
  have absent : n.data.props = none := bare
  rw [absent] at props
  simp [withProps, Value.equal] at props

namespace Graph

variable {g : Graph} {p : Value}

/-- A graph with an empty table of properties for each node that had none. -/
def withProps (g : Graph) : Graph := { g with nodes := g.nodes.map Node.withProps }

theorem withProps_eq_self (given : ∀ n ∈ g.nodes, ¬ n.IsBare) : g.withProps = g := by
  have nodes : g.nodes.map Node.withProps = g.nodes.map id :=
    List.map_congr_left fun n member => Node.withProps_eq_self (given n member)
  rw [withProps, nodes, List.map_id]

theorem payload?_full (g : Graph) :
    Upgrade.payload? (g.toValue.flatten .full) = .ok (g.withProps.toValue.flatten .full) := by
  have nodes : (g.nodes.map fun n => Upgrade.node (n.toValue.flatten .full)) =
      g.withProps.nodes.map fun n => n.toValue.flatten .full := by
    rw [withProps, List.map_map]
    exact List.map_congr_left fun n _ => n.upgrade_full
  rw [payload?_flatten, nodes, flatten_toValue]
  rfl

/-- Giving properties to nodes without any is seen in the payload. -/
theorem equal_withProps_iff (json : (g.toValue.flatten .full).IsJson) :
    (g.withProps.toValue.flatten .full).equal (g.toValue.flatten .full) = true ↔
      ∀ n ∈ g.nodes, ¬ n.IsBare := by
  refine ⟨fun same n member => ?_, fun given => ?_⟩
  · rw [flatten_toValue, flatten_toValue] at same
    have nodes := Value.equal_of_lookup "nodes" same rfl rfl
    rw [Value.equal, withProps, List.map_map, Value.equalItems_map_iff] at nodes
    exact Node.not_isBare_of_equal (nodes n member)
  · rw [withProps_eq_self given]
    exact json.equal_self

/-! ## The payload of a graph -/

/-- It is noted that nodes without properties were given some. -/
theorem notes_full (json : (g.toValue.flatten .full).IsJson) :
    Upgrade.notes (g.toValue.flatten .full) =
      if ∃ n ∈ g.nodes, n.IsBare then [Upgrade.migrated g.nodes.length] else [] := by
  let nodes : List Value := g.nodes.map fun n => n.toValue.flatten .full
  have parts : g.toValue.flatten .full = .object (g.storedParts .full nodes) :=
    g.flatten_toValue .full
  have upgraded : Value.object (Upgrade.payloadFields (g.storedParts .full nodes)) =
      g.withProps.toValue.flatten .full := by
    have done := g.payload?_full
    rw [parts] at done
    exact Except.ok.inj done
  have listed : Upgrade.nodesOf? (g.storedParts .full nodes) = some nodes := rfl
  have quiet : nodes.filterMap Upgrade.nodeNote? = [] := by
    rw [List.filterMap_map]
    exact List.filterMap_eq_nil_iff.2 fun n _ => n.nodeNote?_full
  have count : Upgrade.nodeCount (g.storedParts .full nodes) = g.nodes.length :=
    List.length_map _
  rw [parts, Upgrade.notes_object, listed, Option.getD_some, quiet, upgraded, ← parts, count,
    List.nil_append]
  by_cases bare : ∃ n ∈ g.nodes, n.IsBare
  · have changed :
        ¬ (g.withProps.toValue.flatten .full).equal (g.toValue.flatten .full) = true := by
      rw [equal_withProps_iff json]
      simpa using bare
    rw [if_neg changed, if_pos bare]
  · have same := (equal_withProps_iff json).2 (by simpa using bare)
    rw [if_pos same, if_neg bare]

/-- The payload of a graph in which fields that are null are explicit, a value of a data format, is
accepted.  An upgrade gives its nodes the properties that they lack: it leaves the payload alone and
notes nothing exactly if there is no such node. -/
theorem full_settled_unless_bare (distinct : g.nodeIds.Nodup)
    (dumped : g.toValue.flatten? .full = .ok p) (json : p.IsJson) :
    validate p = .ok (g.asStored .full) ∧
    Upgrade.payload? p = .ok (g.withProps.toValue.flatten .full) ∧
    (Upgrade.payload? p = .ok p ↔ ∀ n ∈ g.nodes, ¬ n.IsBare) ∧
    Upgrade.notes p =
      if ∃ n ∈ g.nodes, n.IsBare then [Upgrade.migrated g.nodes.length] else [] := by
  obtain ⟨-, rfl⟩ := Value.flatten?_eq_ok_iff.1 dumped
  refine ⟨validate_flatten .full distinct, g.payload?_full, ?_, notes_full json⟩
  rw [payload?_full, ← equal_withProps_iff json]
  refine ⟨fun same => ?_, fun same => ?_⟩
  · rw [Except.ok.inj same]
    exact json.equal_self
  · rw [withProps_eq_self ((equal_withProps_iff json).1 same)]

/-- A graph whose nodes have properties while other fields are null, and that graph with one more
node, which has none. -/
theorem full_settled_unless_bare_untargeted :
    let origin : Position := ⟨.zero false, .zero false⟩
    let g : Graph :=
      ⟨[⟨"a", .button, origin,
          ⟨"A", some [("variant", .null)], some [⟨.click, ⟨.showAlert, none, "hi"⟩⟩]⟩⟩,
        ⟨"b", .text, origin, ⟨"B", some [], none⟩⟩], [⟨"e", "a", "b", none⟩], .initial⟩
    let more : Graph := { g with nodes := g.nodes ++ [⟨"c", .input, origin, ⟨"C", none, none⟩⟩] }
    g.nodeIds.Nodup ∧ more.nodeIds.Nodup ∧
    (∃ p, g.toValue.flatten? .full = .ok p ∧ p.IsJson ∧
      validate p = .ok g ∧ Upgrade.payload? p = .ok p ∧ Upgrade.notes p = []) ∧
    ∃ p, more.toValue.flatten? .full = .ok p ∧ p.IsJson ∧
      validate p = .ok more ∧ Upgrade.payload? p ≠ .ok p ∧
      Upgrade.notes p = [Upgrade.migrated 3] := by
  intro origin g more
  have distinct : g.nodeIds.Nodup := by decide
  have distinct' : more.nodeIds.Nodup := by decide
  have json : (g.toValue.flatten .full).IsJson :=
    isJson_flatten (by simp [g, IsJson, tables, Settings.initial, Entries.keys]) .full
  have json' : (more.toValue.flatten .full).IsJson :=
    isJson_flatten (by simp [more, g, IsJson, tables, Settings.initial, Entries.keys]) .full
  obtain ⟨valid, -, settled, notes⟩ := full_settled_unless_bare distinct rfl json
  obtain ⟨valid', -, settled', notes'⟩ := full_settled_unless_bare distinct' rfl json'
  exact ⟨distinct, distinct', ⟨_, rfl, json, valid, settled.2 (by decide), notes⟩, _, rfl, json',
    valid', fun kept => absurd (settled'.1 kept) (by decide), notes'⟩

/-- The payload of a finite graph with explicit nulls is not always left alone. -/
theorem full_settled_fails :
    ¬∀ (g : Graph) (p : Value), g.nodeIds.Nodup → g.IsFinite →
      g.toValue.flatten? .full = .ok p → p.IsJson →
      Upgrade.payload? p = .ok p ∧ Upgrade.notes p = [] := by
  intro always
  let g : Graph :=
    ⟨[⟨"a", .text, ⟨.zero false, .zero false⟩, ⟨"L", none, none⟩⟩], [], .initial⟩
  have finite : g.IsFinite :=
    { positions := by simpa [g] using by decide
      values := by simp [g, tables, Settings.initial] }
  have json : (g.toValue.flatten .full).IsJson :=
    isJson_flatten (by simp [g, IsJson, tables, Settings.initial]) .full
  obtain ⟨kept, -⟩ := always g _ (by decide) finite rfl json
  cases kept

end Graph

end EventCanvas
