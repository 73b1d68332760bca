import EventCanvas.Proofs.Graph
import EventCanvas.Proofs.Reading

/-!
# What the parts of a graph are read from

A node, an edge or a graph is read if a value can be read as it at all and each of its fields is
read.  These equivalences are how later proofs take a reading apart and how they put one together.
-/

namespace EventCanvas

variable {v : Value}

/-- A value that is read by its tag has a known one, and is read as an action of that kind. -/
theorem Action.readTagged_eq_ok {readAs : ActionKind → Value → Reading Action} {a : Action}
    (done : readTagged v readAs = .ok a) :
    ∃ kind, ActionKind.ofTag? (v.fieldOf "type") = some kind ∧ readAs kind v = .ok a := by
  unfold readTagged at done
  unfold Value.fieldOf
  split at done
  · split at done
    · cases done
    · next tag found =>
      rw [found]
      split at done
      · cases done
      · next kind tagged => exact ⟨kind, tagged, Reading.under_eq_ok_iff.1 done⟩
  · cases done

theorem Handler.read_eq_ok_iff {h : Handler} :
    Handler.read v = .ok h ↔ Reading.admits .handler v = true ∧
      Reading.field v "type" (Reading.oneOf Gesture.byName) = .ok h.gesture ∧
      Reading.field v "action" Action.read = .ok h.action := by
  rw [read, Reading.shaped_eq_ok_iff, Reading.seq_eq_ok_iff]
  constructor
  · rintro ⟨admitted, _, action, head, acts, rfl⟩
    obtain ⟨gesture, kind, rfl⟩ := Reading.map_eq_ok_iff.1 head
    exact ⟨admitted, kind, acts⟩
  · rintro ⟨admitted, kind, acts⟩
    exact ⟨admitted, _, _, Reading.map_eq_ok_iff.2 ⟨_, kind, rfl⟩, acts, rfl⟩

theorem NodeData.read_eq_ok_iff {d : NodeData} :
    NodeData.read v = .ok d ↔ Reading.admits .nodeData v = true ∧
      Reading.field v "label" Reading.text = .ok d.label ∧
      Reading.fieldD v ["props"] none (Reading.optional Reading.table) = .ok d.props ∧
      Reading.fieldD v ["events"] none (Reading.optional (Reading.list Handler.read)) =
        .ok d.events := by
  rw [read, Reading.shaped_eq_ok_iff, Reading.map_seq_seq_eq_ok_iff]
  constructor
  · rintro ⟨admitted, _, _, _, label, props, events, rfl⟩
    exact ⟨admitted, label, props, events⟩
  · rintro ⟨admitted, label, props, events⟩
    exact ⟨admitted, _, _, _, label, props, events, rfl⟩

/-- Of the data of a node only what stands under their three names is read. -/
theorem NodeData.read_of_lookup_eq {d : NodeData} {other : Value} (done : NodeData.read v = .ok d)
    (admitted : Reading.admits .nodeData other = true)
    (same : ∀ name ∈ ["label", "props", "events"],
      Entries.lookup name other.fields = Entries.lookup name v.fields) :
    NodeData.read other = .ok d := by
  obtain ⟨-, label, props, events⟩ := read_eq_ok_iff.1 done
  exact read_eq_ok_iff.2 ⟨admitted, Reading.field_of_lookup_eq label (same "label" (by simp)),
    Reading.fieldD_of_lookup_eq props (same "props" (by simp)),
    Reading.fieldD_of_lookup_eq events (same "events" (by simp))⟩

theorem Node.read_eq_ok_iff {n : Node} :
    Node.read v = .ok n ↔ Reading.admits .node v = true ∧
      Reading.field v "id" Reading.text = .ok n.id ∧
      Reading.field v "type" (Reading.oneOf Component.byName) = .ok n.component ∧
      Reading.field v "position" Position.read = .ok n.position ∧
      Reading.field v "data" NodeData.read = .ok n.data := by
  rw [read, Reading.shaped_eq_ok_iff, Reading.map_seq_seq_seq_eq_ok_iff]
  constructor
  · rintro ⟨admitted, _, _, _, _, id, component, position, data, rfl⟩
    exact ⟨admitted, id, component, position, data⟩
  · rintro ⟨admitted, id, component, position, data⟩
    exact ⟨admitted, _, _, _, _, id, component, position, data, rfl⟩

theorem Settings.read_eq_ok_iff {s : Settings} :
    Settings.read v = .ok s ↔ Reading.admits .settings v = true ∧
      Reading.fieldD v ["theme"] .light (Reading.oneOf Theme.byName) = .ok s.theme ∧
      Reading.fieldD v ["previewMode", "preview_mode"] false Reading.truth = .ok s.previewMode ∧
      Reading.fieldD v ["variables"] [] Reading.table = .ok s.vars := by
  rw [read, Reading.shaped_eq_ok_iff, Reading.map_seq_seq_eq_ok_iff]
  constructor
  · rintro ⟨admitted, _, _, _, theme, mode, vars, rfl⟩
    exact ⟨admitted, theme, mode, vars⟩
  · rintro ⟨admitted, theme, mode, vars⟩
    exact ⟨admitted, _, _, _, theme, mode, vars, rfl⟩

theorem Graph.readParts_eq_ok_iff {g : Graph} :
    Graph.readParts v = .ok g ↔
      Reading.fieldD v ["nodes"] [] (Reading.list Node.read) = .ok g.nodes ∧
      Reading.fieldD v ["edges"] [] (Reading.list Edge.read) = .ok g.edges ∧
      Reading.fieldD v ["settings"] Settings.initial Settings.read = .ok g.settings := by
  rw [readParts, Reading.map_seq_seq_eq_ok_iff]
  constructor
  · rintro ⟨_, _, _, nodes, edges, settings, rfl⟩
    exact ⟨nodes, edges, settings⟩
  · rintro ⟨nodes, edges, settings⟩
    exact ⟨_, _, _, nodes, edges, settings, rfl⟩

/-- A payload is accepted as a graph if its parts are read and the ids of the nodes differ. -/
theorem Graph.validate_eq_ok_iff {g : Graph} :
    Graph.validate v = .ok g ↔
      Reading.admits .graph v = true ∧ Graph.readParts v = .ok g ∧ g.nodeIds.Nodup := by
  unfold validate
  split
  · next admitted =>
    have read_iff : read v = .ok g ↔ Graph.readParts v = .ok g ∧ g.nodeIds.Nodup := by
      rw [read, Reading.shaped_eq_ok_iff, Reading.andThen_eq_ok_iff]
      constructor
      · rintro ⟨-, parts, done, checked⟩
        obtain ⟨rfl, nodup⟩ := checkIds_eq_ok_iff.1 checked
        exact ⟨done, nodup⟩
      · rintro ⟨done, nodup⟩
        exact ⟨admitted, g, done, checkIds_eq_ok_iff.2 ⟨rfl, nodup⟩⟩
    rw [← read_iff]
    cases read v <;> simp [admitted]
  · next refused => simp [refused]

end EventCanvas
