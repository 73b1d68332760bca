import EventCanvas.Proofs.Document.Editing

/-!
# Edges that end at nodes

A graph may have edges that end at no node, and nothing that reads or commits a graph looks for
them.  So it is up to each edit whether a document without such edges stays without.  Taking a node
out takes its edges out with it, and a new node or other settings cannot part an edge from its ends.
But a node that is given another id leaves its edges behind, which then end at an id that is gone.

* `Graph.danglingEdges_eq_nil_iff`: no edge dangles if every edge ends at nodes.
* `Editor.Severs`: a step that renames a node at which an edge ends.
* `Editor.linked_unless_severed`: without such a step a document stays without dangling edges, and
  any such step leaves one.
* `Editor.linked_fails`: so it does not always stay so.
-/

namespace EventCanvas

/-- No edge dangles if every edge starts and ends at a node. -/
theorem Graph.danglingEdges_eq_nil_iff {g : Graph} :
    g.danglingEdges = [] ↔ ∀ e ∈ g.edges, e.source ∈ g.nodeIds ∧ e.target ∈ g.nodeIds := by
  simp [danglingEdges, isDangling, List.filter_eq_nil_iff]

/-- Edges whose ends are among the nodes of one graph are among those of a graph with more nodes. -/
theorem Graph.danglingEdges_mono {g h : Graph} (linked : g.danglingEdges = [])
    (edges : h.edges ⊆ g.edges)
    (nodes : ∀ e ∈ h.edges, ∀ id ∈ g.nodeIds, id = e.source ∨ id = e.target → id ∈ h.nodeIds) :
    h.danglingEdges = [] := by
  rw [danglingEdges_eq_nil_iff] at linked ⊢
  intro e member
  obtain ⟨source, target⟩ := linked e (edges member)
  exact ⟨nodes e member _ source (.inl rfl), nodes e member _ target (.inr rfl)⟩

namespace Document

open Editing

variable {s t : Editor}

theorem touches_iff {id : String} {e : Edge} :
    touches id e = true ↔ e.source = id ∨ e.target = id := by
  simp [touches]

/-! ## Edits that leave no edge dangling -/

/-- More nodes at the end part no edge from its ends. -/
theorem linked_append (g : Graph) (n : Node) (linked : g.danglingEdges = []) :
    { g with nodes := g.nodes ++ [n] : Graph }.danglingEdges = [] := by
  refine Graph.danglingEdges_mono linked (List.Subset.refl _) fun e _ id member _ => ?_
  rw [Graph.nodeIds, List.map_append]
  exact List.mem_append_left _ member

/-- What is left of the edges when a node is taken out ends at the nodes that are left. -/
theorem linked_of_removeNode {id : Value} (done : (removeNode id).run s = (.ok (), t))
    (linked : s.document.data.danglingEdges = []) : t.document.data.danglingEdges = [] := by
  obtain ⟨n, -, data⟩ := removeNode_eq_ok done
  rw [data]
  refine Graph.danglingEdges_mono linked (fun e kept => (List.mem_filter.1 kept).1)
    fun e kept id member at_end => ?_
  have apart : ¬touches n.id e = true := by simpa using (List.mem_filter.1 kept).2
  rw [touches_iff] at apart
  have other : id ≠ n.id := by
    rintro rfl
    exact apart (at_end.imp Eq.symm Eq.symm)
  obtain ⟨m, among, rfl⟩ := List.mem_map.1 member
  exact List.mem_map_of_mem (List.mem_filter.2 ⟨among, by simpa using other⟩)

theorem linked_of_updateSettings {changes : Fields}
    (done : (updateSettings changes).run s = (.ok (), t))
    (linked : s.document.data.danglingEdges = []) : t.document.data.danglingEdges = [] := by
  obtain ⟨settings, -, data⟩ := updateSettings_eq_ok done
  rw [data]
  exact linked

/-! ## A node in the place of another -/

theorem find_eq_ok {d : Document} {id : Value} {n : Node} (found : d.find id = .ok n) :
    n ∈ d.data.nodes := by
  unfold find at found
  split at found
  · next m here =>
    cases found
    obtain ⟨s, -, named⟩ := Option.bind_eq_some_iff.1 here
    exact List.mem_of_find?_eq_some named
  · cases found

/-- A node in the place of another has its id in the place of the other's. -/
theorem map_id_putNode (id : String) (m : Node) {nodes : List Node}
    (distinct : (nodes.map Node.id).Nodup) :
    (putNode id m nodes).map Node.id =
      nodes.map fun n => if n.id = id then m.id else n.id := by
  induction nodes with
  | nil => rfl
  | cons n nodes ih =>
    rw [List.map_cons, List.nodup_cons] at distinct
    obtain ⟨once, distinct⟩ := distinct
    by_cases here : n.id = id
    · have others : ∀ k ∈ nodes, (if k.id = id then m.id else k.id) = k.id := by
        intro k member
        refine if_neg fun again => once ?_
        rw [here, ← again]
        exact List.mem_map_of_mem member
      simp [putNode, here, List.map_congr_left others]
    · simp [putNode, here, ih distinct]

variable {id : Value} {changes : Fields} {n m : Node}

/-- After a node was changed its id is there, and its old id is not unless it is the same. -/
theorem mem_nodeIds_putNode {g : Graph} (distinct : g.nodeIds.Nodup) (there : n ∈ g.nodes)
    {name : String} :
    name ∈ { g with nodes := putNode n.id m g.nodes : Graph }.nodeIds ↔
      name = m.id ∨ name ∈ g.nodeIds ∧ name ≠ n.id := by
  rw [Graph.nodeIds, map_id_putNode n.id m distinct, List.mem_map]
  constructor
  · rintro ⟨k, member, rfl⟩
    split
    · exact .inl rfl
    · next other => exact .inr ⟨List.mem_map_of_mem member, other⟩
  · rintro (rfl | ⟨member, other⟩)
    · exact ⟨n, there, if_pos rfl⟩
    · obtain ⟨k, among, rfl⟩ := List.mem_map.1 member
      exact ⟨k, among, if_neg other⟩

/-- Changing a node leaves no edge dangling unless it changes the id of a node at which an edge
ends. -/
theorem linked_updateNode_iff (distinct : s.document.data.nodeIds.Nodup)
    (linked : s.document.data.danglingEdges = []) (found : s.document.find id = .ok n)
    (done : (updateNode id changes).run s = (.ok m, t)) :
    t.document.data.danglingEdges = [] ↔
      m.id = n.id ∨ ∀ e ∈ s.document.data.edges, ¬touches n.id e = true := by
  obtain ⟨_, found', -, data⟩ := updateNode_eq_ok done
  cases found.symm.trans found'
  rw [data]
  have there {name : String} :
      name ∈ (Graph.nodeIds { s.document.data with
        nodes := putNode n.id m s.document.data.nodes }) ↔
      name = m.id ∨ name ∈ s.document.data.nodeIds ∧ name ≠ n.id :=
    mem_nodeIds_putNode distinct (find_eq_ok found)
  constructor
  · intro linked'
    rw [Graph.danglingEdges_eq_nil_iff] at linked'
    refine or_iff_not_imp_left.2 fun renamed e member touched => ?_
    obtain ⟨source, target⟩ := linked' e member
    rw [there] at source target
    rcases touches_iff.1 touched with here | here
    · exact source.elim (fun same => renamed (same ▸ here)) fun ⟨_, other⟩ => other here
    · exact target.elim (fun same => renamed (same ▸ here)) fun ⟨_, other⟩ => other here
  · intro harmless
    refine Graph.danglingEdges_mono linked (List.Subset.refl _) fun e member name old at_end => ?_
    refine there.2 ((eq_or_ne name n.id).imp (fun here => ?_) fun other => ⟨old, other⟩)
    rcases harmless with kept | apart
    · exact here.trans kept.symm
    · exact absurd (touches_iff.2 (at_end.imp (·.symm.trans here) (·.symm.trans here)))
        (apart e member)

end Document

/-! ## Steps -/

/-- An edit that puts other nodes or other edges in the place of all there are. -/
def Edit.replacesRow : Edit → Bool
  | replaceNodes _ | replaceEdges _ => true
  | _ => false

namespace Editor

/-- A step that gives another id to a node at which an edge starts or ends. -/
def Severs (s : Editor) (e : Edit) : Prop :=
  ∃ id changes n m, e = .updateNode id changes ∧ s.document.find id = .ok n ∧
    (s.step e).1 = .ok (some m) ∧ m.id ≠ n.id ∧
    ∃ edge ∈ s.document.data.edges, Document.touches n.id edge = true

/-- A change of a node severs an edge if the id that it gives to the node is another one, and the
edge touches the node. -/
theorem severs_updateNode_iff {s : Editor} {id : Value} {changes : Fields} {n m : Node}
    (found : s.document.find id = .ok n)
    (answer : (s.step (.updateNode id changes)).1 = .ok (some m)) :
    s.Severs (.updateNode id changes) ↔
      ¬(m.id = n.id ∨ ∀ e ∈ s.document.data.edges, ¬Document.touches n.id e = true) := by
  constructor
  · rintro ⟨_, _, _, _, same, found', answer', renamed, e, member, touched⟩ harmless
    cases same
    cases found.symm.trans found'
    cases answer.symm.trans answer'
    exact harmless.elim renamed fun apart => apart e member touched
  · intro harmful
    rw [not_or] at harmful
    obtain ⟨renamed, touched⟩ := harmful
    push Not at touched
    exact ⟨id, changes, n, m, rfl, found, answer, renamed, touched⟩

/-- Of the steps that succeed only a change of a node can part an edge from its ends. -/
theorem linked_of_step_eq_ok {s t : Editor} {e : Edit} {made : Option Node}
    (outcome : s.step e = (.ok made, t)) (linked : s.document.data.danglingEdges = [])
    (piece : e.replacesRow = false) (other : ∀ id changes, e ≠ .updateNode id changes) :
    t.document.data.danglingEdges = [] := by
  cases e with
  | createNode kind place =>
    obtain ⟨n, u, done, given⟩ := Outcome.run_bind_eq_ok_iff.1 outcome
    cases given
    rw [Document.data_of_createNode done]
    exact Document.linked_append _ n linked
  | addNode n =>
    obtain ⟨_, u, done, given⟩ := Outcome.run_bind_eq_ok_iff.1 outcome
    cases given
    rw [Document.data_of_addNode done]
    exact Document.linked_append _ n linked
  | removeNode id =>
    obtain ⟨_, u, done, given⟩ := Outcome.run_bind_eq_ok_iff.1 outcome
    cases given
    exact Document.linked_of_removeNode done linked
  | updateSettings changes =>
    obtain ⟨_, u, done, given⟩ := Outcome.run_bind_eq_ok_iff.1 outcome
    cases given
    exact Document.linked_of_updateSettings done linked
  | markSaved =>
    have leaves := leaves_step s .markSaved
    rw [outcome] at leaves
    cases leaves with
    | edited _ edits _ => exact absurd rfl edits
    | saved time _ _ same => exact same ▸ linked
  | updateNode id changes => exact absurd rfl (other id changes)
  | replaceNodes nodes => cases piece
  | replaceEdges edges => cases piece

/-- A step leaves no edge dangling unless it severs one. -/
theorem linked_step_iff {s : Editor} (distinct : s.document.data.nodeIds.Nodup)
    (linked : s.document.data.danglingEdges = []) {e : Edit} (piece : e.replacesRow = false) :
    (s.step e).2.document.data.danglingEdges = [] ↔ ¬s.Severs e := by
  rcases outcome : s.step e with ⟨f | made, t⟩
  · have leaves := leaves_step s e
    rw [outcome] at leaves
    refine iff_of_true ?_ ?_
    · cases leaves with
      | failed _ _ same => exact same ▸ linked
      | unsaved _ _ _ same => exact same ▸ linked
    · rintro ⟨_, _, _, _, -, -, done, -⟩
      rw [outcome] at done
      cases done
  · by_cases changes : ∃ id fields, e = .updateNode id fields
    · obtain ⟨id, fields, rfl⟩ := changes
      obtain ⟨m, u, done, given⟩ := Outcome.run_bind_eq_ok_iff.1 outcome
      cases given
      obtain ⟨n, found, -⟩ := Document.updateNode_eq_ok done
      have answer : (s.step (.updateNode id fields)).1 = .ok (some m) := by rw [outcome]
      rw [Document.linked_updateNode_iff distinct linked found done,
        severs_updateNode_iff found answer, not_not]
    · refine iff_of_true (linked_of_step_eq_ok outcome linked piece fun id fields same =>
        changes ⟨id, fields, same⟩) ?_
      rintro ⟨id, fields, _, _, same, -⟩
      exact changes ⟨id, fields, same⟩

/-! ## Sessions -/

/-- As long as no step severs an edge none dangles, by induction on the steps. -/
theorem linked_run {start : Editor} (distinct : start.document.data.nodeIds.Nodup)
    (linked : start.document.data.danglingEdges = []) {edits : List Edit}
    (pieces : ∀ e ∈ edits, e.replacesRow = false)
    (unsevered : ∀ before e after, edits = before ++ e :: after → ¬(start.run before).Severs e) :
    (start.run edits).document.data.danglingEdges = [] := by
  induction edits generalizing start with
  | nil => exact linked
  | cons e edits ih =>
    have piece := pieces e List.mem_cons_self
    have first := (linked_step_iff distinct linked piece).2 (unsevered [] e edits rfl)
    refine ih ((leaves_step start e).distinct distinct) first
      (fun e' member => pieces e' (List.mem_cons_of_mem e member)) fun before e' after split => ?_
    exact unsevered (e :: before) e' after (congrArg (e :: ·) split)

/-- A document whose ids differ and none of whose edges dangles stays so through any edits of single
nodes and of the settings, successful or not, as long as none of them gives another id to a node at
which an edge ends.  Any step that does so leaves a dangling edge, and any other leaves none. -/
theorem linked_unless_severed {start : Editor} (distinct : start.document.data.nodeIds.Nodup)
    (linked : start.document.data.danglingEdges = []) {edits : List Edit}
    (pieces : ∀ e ∈ edits, e.replacesRow = false)
    (unsevered : ∀ before e after, edits = before ++ e :: after → ¬(start.run before).Severs e) :
    (start.run edits).document.data.danglingEdges = [] ∧
      ∀ e, e.replacesRow = false →
        ((start.run (edits ++ [e])).document.data.danglingEdges = [] ↔
          ¬(start.run edits).Severs e) := by
  have after := linked_run distinct linked pieces unsevered
  refine ⟨after, fun e piece => ?_⟩
  rw [run_concat]
  exact linked_step_iff (distinct_run distinct edits) after piece

/-- A session on a document with two nodes and an edge between them. -/
def edgeEditor : Editor :=
  let node (id : String) : Node := Document.newNode .button id Document.origin
  ⟨.ofGraph ⟨[node "a", node "b"], [⟨"e", "a", "b", none⟩], .initial⟩, .ticking 0 1000, []⟩

/-- One node is given another position, and then another id. -/
theorem linked_unless_severed_moved :
    let moved := Edit.updateNode (.text "a") [("position", .object [("x", .int 5), ("y", .int 6)])]
    let renamed := Edit.updateNode (.text "a") [("id", .text "c")]
    edgeEditor.document.data.nodeIds.Nodup ∧
    edgeEditor.document.data.danglingEdges = [] ∧
    (∀ e ∈ [moved], e.replacesRow = false) ∧ renamed.replacesRow = false ∧
    (∀ before e after, [moved] = before ++ e :: after → ¬(edgeEditor.run before).Severs e) ∧
    (edgeEditor.run [moved]).document.data.danglingEdges = [] ∧
    (edgeEditor.run [moved]).Severs renamed ∧
    (edgeEditor.run [moved, renamed]).document.data.danglingEdges ≠ [] := by
  intro moved renamed
  have distinct : edgeEditor.document.data.nodeIds.Nodup := by decide
  have linked : edgeEditor.document.data.danglingEdges = [] := by rfl
  have pieces : ∀ e ∈ [moved], e.replacesRow = false := by simp [moved, Edit.replacesRow]
  -- the node keeps its id when it is moved
  have kept : ¬edgeEditor.Severs moved := by
    rintro ⟨_, _, n, m, same, found, answer, other, -⟩
    obtain ⟨rfl, rfl⟩ := Edit.updateNode.inj same
    cases found
    cases answer
    exact other rfl
  have unsevered (before : List Edit) (e : Edit) (after : List Edit)
      (split : [moved] = before ++ e :: after) : ¬(edgeEditor.run before).Severs e := by
    rcases List.singleton_eq_append_iff.1 split with ⟨rfl, rest⟩ | ⟨-, rest⟩
    · cases rest
      exact kept
    · cases rest
  have severs : (edgeEditor.run [moved]).Severs renamed :=
    ⟨_, _, _, _, rfl, rfl, rfl, by decide, ⟨"e", "a", "b", none⟩, List.mem_singleton.2 rfl, rfl⟩
  obtain ⟨after, next⟩ := linked_unless_severed distinct linked pieces unsevered
  exact ⟨distinct, linked, pieces, rfl, unsevered, after, severs,
    fun none => (next renamed rfl).1 none severs⟩

/-- Edits of single nodes do not always leave a document without dangling edges. -/
theorem linked_fails :
    ¬∀ (start : Editor) (edits : List Edit), start.document.data.nodeIds.Nodup →
      start.document.data.danglingEdges = [] → (∀ e ∈ edits, e.replacesRow = false) →
      (start.run edits).document.data.danglingEdges = [] := by
  intro always
  have pieces : ∀ e ∈ [Edit.updateNode (.text "a") [("id", .text "c")]],
      e.replacesRow = false := by simp [Edit.replacesRow]
  have none : [(⟨"e", "a", "b", none⟩ : Edge)] = [] :=
    always edgeEditor _ (by decide) (by rfl) pieces
  cases none

end Editor

end EventCanvas
