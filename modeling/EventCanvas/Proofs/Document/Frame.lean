import EventCanvas.Proofs.Document.Editing
import EventCanvas.Proofs.Graph.Working

/-!
# What an edit leaves alone

Adding and removing a node hand the other nodes, the edges and the settings on as they
are.  Changing a node or the settings is less direct: the typed value is turned into
its working form, the changes are put over it, and what that makes is read again.  So
what is not named among the changes is kept as far as reading undoes the working form.
It does so for all that is declared; properties and variables may hold anything, and
there a typed value comes back as a table, and so does an instance of a data class.

* `Document.lookup_changed`: a field that is not named has the value of the working form.
* `Node.KeptExcept`, `Settings.KeptExcept`: what is kept, field by field.
* `Document.edits_framed`: what each edit leaves of a graph.
* `Document.edits_framed_fails`: a typed value among the properties is not kept.
-/

namespace EventCanvas

open Value (workingEntries)

/-- Whether a change of some fields names a field. -/
abbrev Fields.Names (changes : Fields) (name : String) : Prop := name ∈ Entries.keys changes

/-- What is kept of a node when some of its fields are changed. -/
structure Node.KeptExcept (changes : Fields) (n m : Node) : Prop where
  id : ¬changes.Names "id" → m.id = n.id
  component : ¬changes.Names "type" → m.component = n.component
  position : ¬changes.Names "position" → m.position = n.position
  data : ¬changes.Names "data" → m.data = n.data.asWorking
  data_of_typeless : ¬changes.Names "data" → n.data.IsTypeless → m.data = n.data

/-- What is kept of settings when some of their fields are changed. -/
structure Settings.KeptExcept (changes : Fields) (s t : Settings) : Prop where
  theme : ¬changes.Names "theme" → t.theme = s.theme
  previewMode : ¬changes.Names "previewMode" → ¬changes.Names "preview_mode" →
    t.previewMode = s.previewMode
  vars : ¬changes.Names "variables" → t.vars = workingEntries 0 s.vars
  vars_of_typeless : ¬changes.Names "variables" → (∀ e ∈ s.vars, e.2.IsTypeless) → t.vars = s.vars

namespace Document

variable {d : Document} {changes : Fields}

/-! ## Fields that are not changed -/

/-- A field that is not named among the changes has the value of the working form. -/
theorem lookup_changed {name : String} (kept : ¬changes.Names name) (v : Value) :
    Entries.lookup name (changed v changes).fields = Entries.lookup name v.working.fields :=
  Entries.lookup_merge_of_not_mem kept _

/-- What is read from a field that is not named is what its working form reads as. -/
theorem eq_of_field_changed {α : Type} {v w : Value} {name : String} {read : Value → Reading α}
    {a b : α} (kept : ¬changes.Names name)
    (there : Entries.lookup name v.working.fields = some w) (reads : read w = .ok a)
    (done : Reading.field (changed v changes) name read = .ok b) : b = a := by
  obtain ⟨u, found, read_u⟩ := Reading.field_eq_ok_iff.1 done
  rw [lookup_changed kept, there] at found
  obtain rfl := Option.some.inj found
  rw [reads] at read_u
  exact (Reading.ok.inj read_u).symm

theorem eq_of_fieldD_changed {α : Type} {v w : Value} {name : String} {read : Value → Reading α}
    {default a b : α} (kept : ¬changes.Names name)
    (there : Entries.lookup name v.working.fields = some w) (reads : read w = .ok a)
    (done : Reading.fieldD (changed v changes) [name] default read = .ok b) : b = a := by
  rcases Reading.fieldD_eq_ok_iff.1 done with ⟨absent, -⟩ | ⟨u, found, read_u⟩
  · rw [lookup_changed kept, there] at absent
    cases absent
  · rw [lookup_changed kept, there] at found
    obtain rfl := Option.some.inj found
    rw [reads] at read_u
    exact (Reading.ok.inj read_u).symm

/-! ## Changing a node -/

theorem keptExcept_of_changedNode {n m : Node} (done : changedNode n changes = .ok m) :
    n.KeptExcept changes m := by
  have read : Node.read (changed n.toValue changes) = .ok m := by
    unfold changedNode at done
    split at done
    · next m' read =>
      cases done
      exact read
    · cases done
  obtain ⟨-, id, component, position, data⟩ := Node.read_eq_ok_iff.1 read
  have named : Reading.oneOf Component.byName (.text n.component.name) = .ok n.component := by
    cases n.component <;> rfl
  have kept (unnamed : ¬changes.Names "data") : m.data = n.data.asWorking :=
    eq_of_field_changed unnamed rfl n.data.read_working data
  exact
    { id := fun unnamed => eq_of_field_changed unnamed rfl rfl id
      component := fun unnamed => eq_of_field_changed unnamed rfl named component
      position := fun unnamed => eq_of_field_changed unnamed rfl n.position.read_working position
      data := kept
      data_of_typeless := fun unnamed typeless => (kept unnamed).trans typeless.asWorking_eq }

/-- The node that a value names stands once among the nodes. -/
theorem split_of_find {id : Value} {n : Node} (found : d.find id = .ok n) :
    id = .text n.id ∧ ∃ before after, d.data.nodes = before ++ n :: after ∧
      ∀ k ∈ before, k.id ≠ n.id := by
  unfold find at found
  split at found
  · next m here =>
    cases found
    obtain ⟨s, text, named⟩ := Option.bind_eq_some_iff.1 here
    obtain ⟨hit, before, after, whole, earlier⟩ := List.find?_eq_some_iff_append.1 named
    obtain rfl : n.id = s := by simpa using hit
    refine ⟨?_, before, after, whole, fun k member => by simpa using earlier k member⟩
    cases id <;> cases text
    rfl
  · cases found

/-- A node takes the place of the first one with an id. -/
theorem putNode_append {n m : Node} {before after : List Node} (first : ∀ k ∈ before, k.id ≠ n.id) :
    putNode n.id m (before ++ n :: after) = before ++ m :: after := by
  induction before with
  | nil => simp [putNode]
  | cons k before ih =>
    have other : k.id ≠ n.id := first k List.mem_cons_self
    rw [List.cons_append, putNode, ih fun j member => first j (List.mem_cons_of_mem k member)]
    simp [other]

/-- Where ids differ, to leave out an id leaves out the one node that has it. -/
theorem filter_append_of_distinct {n : Node} {before after : List Node}
    (distinct : ((before ++ n :: after).map Node.id).Nodup) :
    (before ++ n :: after).filter (fun k => k.id != n.id) = before ++ after := by
  rw [List.map_append, List.map_cons] at distinct
  obtain ⟨-, later, apart⟩ := List.nodup_append.1 distinct
  have front : before.filter (fun k => k.id != n.id) = before := List.filter_eq_self.2
    fun k member => by simpa using apart k.id (List.mem_map_of_mem member) n.id List.mem_cons_self
  have back : after.filter (fun k => k.id != n.id) = after := List.filter_eq_self.2
    fun k member => by
      have other : k.id ≠ n.id := fun same =>
        (List.nodup_cons.1 later).1 (same ▸ List.mem_map_of_mem member)
      simpa using other
  rw [List.filter_append, List.filter_cons, front, back]
  simp

/-! ## Changing settings -/

theorem keptExcept_of_read {s t : Settings}
    (read : Settings.read (changed s.toValue changes) = .ok t) : s.KeptExcept changes t := by
  obtain ⟨-, theme, mode, vars⟩ := Settings.read_eq_ok_iff.1 read
  have named : Reading.oneOf Theme.byName (.text s.theme.name) = .ok s.theme := by
    cases s.theme <;> rfl
  have kept (unnamed : ¬changes.Names "variables") : t.vars = workingEntries 0 s.vars :=
    eq_of_fieldD_changed unnamed rfl rfl vars
  refine
    { theme := fun unnamed => eq_of_fieldD_changed unnamed rfl named theme
      previewMode := fun outer inner => ?_
      vars := kept
      vars_of_typeless := fun unnamed typeless => (kept unnamed).trans
        (Value.workingEntries_eq_self fun e member => (typeless e member).workingAt_eq 0) }
  have absent : Entries.lookup "previewMode" (changed s.toValue changes).fields = none :=
    lookup_changed outer s.toValue
  have there : Entries.lookup "preview_mode" (changed s.toValue changes).fields =
      some (.bool s.previewMode) := lookup_changed inner s.toValue
  simp only [Reading.fieldD, Reading.present?, absent, there] at mode
  exact (Reading.ok.inj mode).symm

/-! ## Edits -/

/-- An edit changes only what it names.  A new node comes last and nothing else changes.  A removed
node goes with the edges that touch it, and the rest stays in order.  A changed node stays in its
place; the others, the edges and the settings are the same.  With changed settings nodes and edges
are the same.  Of a changed node and of changed settings every field is kept that is not named,
except that a typed value or an instance of a data class among the properties or the variables
becomes a table. -/
theorem edits_framed {s t : Editor} (distinct : s.document.data.nodeIds.Nodup) :
    (∀ n, (addNode n).run s = (.ok (), t) →
      t.document.data = { s.document.data with nodes := s.document.data.nodes ++ [n] }) ∧
    (∀ id, (removeNode id).run s = (.ok (), t) → ∃ before n after, id = .text n.id ∧
      s.document.data.nodes = before ++ n :: after ∧
      t.document.data = { s.document.data with
        nodes := before ++ after
        edges := s.document.data.edges.filter fun e => !touches n.id e }) ∧
    (∀ id changes m, (updateNode id changes).run s = (.ok m, t) →
      ∃ before n after, id = .text n.id ∧ s.document.data.nodes = before ++ n :: after ∧
      t.document.data = { s.document.data with nodes := before ++ m :: after } ∧
      n.KeptExcept changes m) ∧
    (∀ changes, (updateSettings changes).run s = (.ok (), t) →
      t.document.data = { s.document.data with settings := t.document.data.settings } ∧
      s.document.data.settings.KeptExcept changes t.document.data.settings) := by
  refine ⟨fun n done => data_of_addNode done, fun id done => ?_, fun id changes m done => ?_,
    fun changes done => ?_⟩
  · obtain ⟨n, found, data⟩ := removeNode_eq_ok done
    obtain ⟨named, before, after, whole, -⟩ := split_of_find found
    refine ⟨before, n, after, named, whole, ?_⟩
    rw [Graph.nodeIds, whole] at distinct
    rw [data, whole, filter_append_of_distinct distinct]
  · obtain ⟨n, found, read, data⟩ := updateNode_eq_ok done
    obtain ⟨named, before, after, whole, first⟩ := split_of_find found
    refine ⟨before, n, after, named, whole, ?_, keptExcept_of_changedNode read⟩
    rw [data, whole, putNode_append first]
  · obtain ⟨settings, read, data⟩ := updateSettings_eq_ok done
    rw [data]
    exact ⟨rfl, keptExcept_of_read read⟩

/-- A button that has some properties and reacts to clicks. -/
def pressable (props : Fields) : Node :=
  ⟨"a", .button, origin, ⟨"A", some props, some [⟨.click, ⟨.showAlert, none, "pressed"⟩⟩]⟩⟩

/-- A session on the document of a graph of one node. -/
def soleEditor (n : Node) : Editor := ⟨ofGraph ⟨[n], [], .initial⟩, .ticking 0 1000, []⟩

/-- The button becomes a text and keeps the rest. -/
theorem edits_framed_retyped :
    let n := pressable [("hint", .list [.text "press", .null])]
    let s := soleEditor n
    s.document.data.nodeIds.Nodup ∧
    ∃ m t, (updateNode (.text "a") [("type", .text "text")]).run s = (.ok m, t) ∧
      t.document.data = { s.document.data with nodes := [m] } ∧ m.id = n.id ∧
      m.position = n.position ∧ m.data = n.data := by
  intro n s
  have distinct : s.document.data.nodeIds.Nodup := by decide
  obtain ⟨m, t, done⟩ : ∃ m t,
      (updateNode (.text "a") [("type", .text "text")]).run s = (.ok m, t) := ⟨_, _, rfl⟩
  obtain ⟨before, k, after, -, whole, framed, kept⟩ := (edits_framed distinct).2.2.1 _ _ _ done
  obtain ⟨rfl, alone⟩ : before = [] ∧ [n] = k :: after := by
    cases before with
    | nil => exact ⟨rfl, whole⟩
    | cons _ before => simp [s, soleEditor, ofGraph] at whole
  obtain ⟨rfl, rfl⟩ := List.cons.inj alone
  have typeless : n.data.IsTypeless := by
    rintro ps given e member
    cases given
    obtain rfl := List.mem_singleton.1 member
    refine .list fun x inside => ?_
    rcases List.mem_cons.1 inside with rfl | last
    · exact .text "press"
    · rw [List.mem_singleton.1 last]
      exact .null
  exact ⟨distinct, m, t, done, framed, kept.id (by decide), kept.position (by decide),
    kept.data_of_typeless (by decide) typeless⟩

/-- A position among the properties of a node becomes a table when another field is changed. -/
theorem edits_framed_fails :
    ¬∀ (s t : Editor) (id : Value) (changes : Fields) (n m : Node),
      s.document.data.nodeIds.Nodup → s.document.find id = .ok n →
      (updateNode id changes).run s = (.ok m, t) → ¬changes.Names "data" →
      m.data.toValue.equal n.data.toValue = true := by
  intro kept
  have same := kept (soleEditor (pressable [("at", origin.toValue)])) _ (.text "a")
    [("type", .text "text")] _ _ (by decide) rfl rfl (by decide)
  exact absurd same (by decide)

end Document

end EventCanvas
