import EventCanvas.Proofs.Document.Editing

/-!
# Saving documents

Three things are kept about an open project: its graph, the row it came from, and whether it was
changed since it was last saved.  Edits replace the graph and leave the row alone; saving puts the
graph into the row and leaves the graph alone.  An attempt to save a graph that cannot be copied
leaves both alone, and takes off the mark of unsaved changes.

* `Document.InRow`: a document has a row, and what is not marked as changed is what the row holds.
* `Editor.inRow_run`: so it stays, whatever is done to the document of a row, as long as no step loses
  the mark.
* `Editor.saved_unless_mark_lost`: the mark, the graph and the row after any steps.
* `Editor.saved_fails`: a document without the mark that is not what its row holds.
-/

namespace EventCanvas

namespace Document

variable {d d' : Document}

/-- What is not marked as changed is what the row of the document holds. -/
def InRow (d : Document) : Prop :=
  d.hasUnsavedChanges = false → ∀ p, d.row = some p → p.data = d.data

theorem ofProject_eq_ok_iff {p : Project} :
    ofProject p = .ok d ↔ p.data.toValue.copyFault? = none ∧ d = ⟨p.data, some p, false⟩ := by
  unfold ofProject copyOf
  cases p.data.toValue.copyFault? with
  | some f => exact ⟨nofun, fun ⟨free, _⟩ => nomatch free⟩
  | none => exact ⟨fun opened => ⟨rfl, (Except.ok.inj opened).symm⟩, fun ⟨_, same⟩ => same ▸ rfl⟩

theorem inRow_ofProject {p : Project} (opened : ofProject p = .ok d) : d.InRow := by
  obtain ⟨-, rfl⟩ := ofProject_eq_ok_iff.1 opened
  intro _ _ same
  cases same
  rfl

/-- A committed change is marked. -/
theorem inRow_of_committed (committed : Committed d d') : d'.InRow := by
  intro unmarked
  rw [committed.unsaved] at unmarked
  cases unmarked

theorem inRow_saved (time : Instant) (d : Document) : (d.saved time).InRow := by
  intro _ p same
  obtain ⟨_, -, rfl⟩ := Option.map_eq_some_iff.1 same
  rfl

end Document

namespace Editor

open Document (InRow)

/-! ## Steps -/

variable {d d' : Document} {e : Edit} {answer : Except Fault (Option Node)}

/-- Only saving touches the row. -/
theorem Leaves.row (leaves : Leaves d e d' answer) (edits : e ≠ .markSaved) : d'.row = d.row := by
  cases leaves with
  | failed f _ same => rw [same]
  | edited made _ committed => exact committed.row
  | saved time saves _ _ => exact absurd saves edits
  | unsaved f saves _ _ => exact absurd saves edits

/-- A row may be replaced and is never lost. -/
theorem Leaves.exists_row (leaves : Leaves d e d' answer) (before : ∃ p, d.row = some p) :
    ∃ p, d'.row = some p := by
  obtain ⟨p, belongs⟩ := before
  cases leaves with
  | failed f _ same => exact ⟨p, same ▸ belongs⟩
  | edited made _ committed => exact ⟨p, committed.row.trans belongs⟩
  | saved time _ _ same =>
    rw [same, Document.saved, belongs]
    exact ⟨_, rfl⟩
  | unsaved f _ _ same => exact ⟨p, same ▸ belongs⟩

/-- A step that does not lose the mark leaves nothing unmarked that is not saved. -/
theorem inRow_step {s : Editor} (inRow : s.document.InRow) (safe : ¬s.LosesMark e) :
    (s.step e).2.document.InRow := by
  have leaves := leaves_step s e
  generalize (s.step e).1 = answer at leaves
  cases leaves with
  | failed f _ same => exact same ▸ inRow
  | edited made _ committed => exact Document.inRow_of_committed committed
  | saved time _ _ same => exact same ▸ Document.inRow_saved time s.document
  | unsaved f saves kept same => exact (same.trans (unmarked_eq_self saves kept safe)) ▸ inRow

/-- What saving does to the document of a row. -/
theorem step_markSaved {s : Editor} {p : Project} (belongs : s.document.row = some p) :
    (s.document.data.toValue.copyFault? = none → (s.step .markSaved).1 = .ok none ∧
      (s.step .markSaved).2.document = ⟨s.document.data,
        some { p with data := s.document.data, updatedAt := s.clock.now }, false⟩) ∧
    (∀ f, s.document.data.toValue.copyFault? = some f → (s.step .markSaved).1 = .error f ∧
      (s.step .markSaved).2.document = ⟨s.document.data, some p, false⟩) := by
  have fault : s.document.saveFault? = s.document.data.toValue.copyFault? := by
    rw [Document.saveFault?, belongs]
    rfl
  constructor
  · intro free
    obtain ⟨t, run, same⟩ := Document.run_markSaved_of_none (fault.trans free)
    rw [step, Edit.perform, Outcome.run_bind, run]
    refine ⟨rfl, ?_⟩
    show t.document = _
    rw [same, Document.saved, belongs]
    rfl
  · intro f kept
    rw [step, Edit.perform, Outcome.run_bind,
      Document.run_markSaved_of_fault (fault.trans kept)]
    refine ⟨rfl, ?_⟩
    show s.document.unmarked = _
    rw [Document.unmarked, belongs]

/-! ## Sessions -/

/-- Whatever is done to the document of a row, it keeps a row, by induction on the steps. -/
theorem exists_row_run {start : Editor} (belongs : ∃ p, start.document.row = some p)
    (edits : List Edit) : ∃ p, (start.run edits).document.row = some p := by
  induction edits generalizing start with
  | nil => exact belongs
  | cons e edits ih => exact ih ((leaves_step start e).exists_row belongs)

/-- A document stays in its row as long as no step loses the mark, by induction on the steps. -/
theorem inRow_run {start : Editor} (inRow : start.document.InRow) {edits : List Edit}
    (safe : ∀ before e after, edits = before ++ e :: after → ¬(start.run before).LosesMark e) :
    (start.run edits).document.InRow := by
  induction edits generalizing start with
  | nil => exact inRow
  | cons e edits ih =>
    refine ih (inRow_step inRow (safe [] e edits rfl)) fun before e' after split => ?_
    exact safe (e :: before) e' after (congrArg (e :: ·) split)

/-- The row stays as it is until the document is saved, by induction on the steps. -/
theorem row_run (start : Editor) {edits : List Edit} (unsaved : .markSaved ∉ edits) :
    (start.run edits).document.row = start.document.row := by
  induction edits generalizing start with
  | nil => rfl
  | cons e edits ih =>
    rw [List.mem_cons, not_or] at unsaved
    exact (ih (start.step e).2 unsaved.2).trans ((leaves_step start e).row (Ne.symm unsaved.1))

/-- The mark of unsaved changes is sound unless it is lost.  After any steps on the document of a
project row, whether they succeed or fail, a document that is not marked is what its row holds, if
no step lost the mark.  Saving takes the mark off.  If the graph can be copied it succeeds, and
changes nothing of the row but its graph and the time of its change.  If not it fails, and leaves
the graph and the row as they were, so that a mark that there was is lost.  Whatever is done without
saving leaves the row alone. -/
theorem saved_unless_mark_lost {p : Project} {d : Document} (opened : Document.ofProject p = .ok d)
    (clock : Clock) (log : List LogRecord) (edits : List Edit) :
    let start : Editor := ⟨d, clock, log⟩
    let s := start.run edits
    ∃ row, s.document.row = some row ∧
      ((∀ before e after, edits = before ++ e :: after → ¬(start.run before).LosesMark e) →
        s.document.hasUnsavedChanges = false → s.document.data = row.data) ∧
      (s.document.data.toValue.copyFault? = none → (s.step .markSaved).1 = .ok none ∧
        (s.step .markSaved).2.document = ⟨s.document.data,
          some { row with data := s.document.data, updatedAt := s.clock.now }, false⟩) ∧
      (∀ f, s.document.data.toValue.copyFault? = some f → (s.step .markSaved).1 = .error f ∧
        (s.step .markSaved).2.document = ⟨s.document.data, some row, false⟩) ∧
      ∀ more, .markSaved ∉ more → (s.run more).document.row = some row := by
  intro start s
  have opened_row : ∃ p, start.document.row = some p := by
    obtain ⟨-, rfl⟩ := Document.ofProject_eq_ok_iff.1 opened
    exact ⟨p, rfl⟩
  obtain ⟨row, belongs⟩ := exists_row_run opened_row edits
  obtain ⟨succeeds, fails⟩ := step_markSaved (s := s) belongs
  refine ⟨row, belongs, fun safe unmarked => ?_, succeeds, fails, fun more unsaved => ?_⟩
  · exact (inRow_run (Document.inRow_ofProject opened) safe unmarked row belongs).symm
  · rw [row_run s unsaved, belongs]

/-- A project of one node.  The node is taken out, the document is saved, and taking out the same
node again fails: the document is not marked, and its row has no nodes. -/
theorem saved_unless_mark_lost_again :
    let node := Document.newNode .button "a" Document.origin
    let p : Project := ⟨default, default, "Demo", ⟨[node], [], .initial⟩, default, default, false⟩
    let start : Editor := ⟨⟨p.data, some p, false⟩, .ticking 0 1000, []⟩
    let edits := [.removeNode (.text "a"), .markSaved, .removeNode (.text "a")]
    let s := start.run edits
    Document.ofProject p = .ok ⟨p.data, some p, false⟩ ∧
    (∀ before e after, edits = before ++ e :: after → ¬(start.run before).LosesMark e) ∧
    s.document.hasUnsavedChanges = false ∧
    ∃ row, s.document.row = some row ∧ s.document.data = row.data ∧ row.data.nodeIds = [] ∧
      .markSaved ∉ [Edit.addNode node] ∧ (s.run [.addNode node]).document.row = some row := by
  intro node p start edits s
  have opened : Document.ofProject p = .ok ⟨p.data, some p, false⟩ := by rfl
  have unmarked : s.document.hasUnsavedChanges = false := by rfl
  have empty : s.document.data.nodeIds = [] := by rfl
  have unsaved : Edit.markSaved ∉ [Edit.addNode node] := by simp
  -- only the second step saves, and then there is nothing in the graph that cannot be copied
  have safe (before : List Edit) (e : Edit) (after : List Edit)
      (split : edits = before ++ e :: after) : ¬(start.run before).LosesMark e := by
    rintro ⟨rfl, -, f, kept⟩
    rcases before with _ | ⟨first, _ | ⟨second, _ | ⟨third, before⟩⟩⟩
    · simp [edits] at split
    · obtain ⟨rfl, -⟩ := List.cons.inj split
      cases kept
    · simp [edits] at split
    · simp [edits] at split
  obtain ⟨row, belongs, held, -, -, kept⟩ :=
    saved_unless_mark_lost opened (.ticking 0 1000) [] edits
  simp only [s, start] at safe unmarked empty ⊢
  have same := held safe unmarked
  exact ⟨opened, safe, unmarked, row, belongs, same, same ▸ empty, unsaved, kept _ unsaved⟩

/-- A document that is not marked is not always what its row holds. -/
theorem saved_fails :
    ¬∀ (p row : Project) (d : Document) (clock : Clock) (log : List LogRecord) (edits : List Edit),
      Document.ofProject p = .ok d →
      (Editor.run ⟨d, clock, log⟩ edits).document.hasUnsavedChanges = false →
      (Editor.run ⟨d, clock, log⟩ edits).document.row = some row →
      (Editor.run ⟨d, clock, log⟩ edits).document.data = row.data := by
  intro always
  let g : Graph := ⟨[], [], .initial⟩
  let p : Project := ⟨default, default, "Demo", g, default, default, false⟩
  have same := always p p ⟨g, some p, false⟩ (.ticking 0 1000) [] [holdUncopyable, .markSaved]
    rfl rfl rfl
  cases congrArg (·.settings.vars) same

end Editor

end EventCanvas
