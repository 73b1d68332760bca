import EventCanvas.Document.Edit
import EventCanvas.Proofs.Graph
import EventCanvas.Proofs.Outcome
import EventCanvas.Proofs.Reading

/-!
# Editing documents

What a step writes before a fault stays written, so whether a step that fails leaves the document
alone depends on the order of what it does.  Edits do: whatever can fail comes before the first write
of `commit`, and after it comes only what cannot.  Saving does not, as the mark of unsaved changes is
taken off first.

* `Editing.Reads`, `Editing.Commits`: what leaves the document alone, and what does so unless it
  succeeds.  A step that reads and then commits commits.
* `Document.Committed`: all that a successful edit does beside the graph.
* `Edit.commits_perform`: every edit commits.
* `Editor.edits_atomic_unless_mark_lost`: what every step of every editing session leaves.
* `Editor.edits_atomic_fails`: an attempt to save loses the mark.
-/

namespace EventCanvas

/-- Parts are accepted as a graph if the ids of the nodes differ. -/
theorem Graph.ofParts_eq_ok_iff {nodes : List Node} {edges : List Edge} {settings : Settings}
    {g : Graph} :
    Graph.ofParts nodes edges settings = .ok g ↔
      ⟨nodes, edges, settings⟩ = g ∧ g.nodeIds.Nodup := by
  unfold ofParts
  rw [checkIds_eq_ok_iff]
  constructor
  · rintro ⟨rfl, nodup⟩
    exact ⟨rfl, nodup⟩
  · rintro ⟨rfl, nodup⟩
    exact ⟨rfl, nodup⟩

/-- Another graph, whose ids differ, took the place of the one of a document, and was marked as not
saved.  The project row is the same. -/
structure Document.Committed (d d' : Document) : Prop where
  distinct : d'.data.nodeIds.Nodup
  row : d'.row = d.row
  unsaved : d'.hasUnsavedChanges = true

namespace Editing

open Document (Committed)

variable {α β : Type} {x : Editing α} {next : α → Editing β}

/-! ## Order -/

/-- The document is left alone, whether there is a fault or not. -/
def Reads (x : Editing α) : Prop := ∀ s, (x.run s).2.document = s.document

/-- There is no fault, and the document is left alone. -/
def Settles (x : Editing α) : Prop := ∀ s, ∃ a t, x.run s = (.ok a, t) ∧ t.document = s.document

/-- What an attempt to commit leaves of a document. -/
inductive Attempted (d d' : Document) : Except Fault α → Prop
  | failed (f : Fault) (same : d' = d) : Attempted d d' (.error f)
  | done (a : α) (committed : Committed d d') : Attempted d d' (.ok a)

/-- Another graph is committed, or there is a fault and the document is left alone. -/
def Commits (x : Editing α) : Prop :=
  ∀ s, Attempted s.document (x.run s).2.document (x.run s).1

theorem reads_document : Reads document := fun _ => rfl

theorem reads_ofExcept (outcome : Except Fault α) : Reads (ofExcept outcome) := fun s => by
  rw [Outcome.run_ofExcept]

theorem reads_newId (taken : List String) (c : Component) : Reads (newId taken c) := fun _ => rfl

theorem settles_note (message : String) : Settles (note message) := fun _ => ⟨_, _, rfl, rfl⟩

theorem settles_pure (a : α) : Settles (pure a) := fun _ => ⟨_, _, rfl, rfl⟩

theorem commits_throw (f : Fault) : Commits (throw f : Editing α) := fun _ => .failed f rfl

/-- A commit of a graph whose ids differ. -/
theorem commits_commit {built : Reading Graph}
    (checked : ∀ g, built = .ok g → g.nodeIds.Nodup) : Commits (Document.commit built) := by
  cases built with
  | ok g => exact fun _ => .done () ⟨checked g rfl, rfl, rfl⟩
  | bad issues => exact commits_throw (.ofIssues issues)

/-- What was only read is no part of what was committed. -/
theorem Reads.bind (first : Reads x) (rest : ∀ a, Commits (next a)) : Commits (x >>= next) := by
  intro s
  have same := first s
  rw [Outcome.run_bind]
  rcases run : x.run s with ⟨f | a, t⟩
  · rw [run] at same
    exact .failed f same
  · rw [run] at same
    have attempted := rest a t
    rw [show t.document = s.document from same] at attempted
    exact attempted

/-- After a commit there is nothing to fail any more. -/
theorem Commits.bind (first : Commits x) (rest : ∀ a, Settles (next a)) :
    Commits (x >>= next) := by
  intro s
  have attempted := first s
  rw [Outcome.run_bind]
  rcases run : x.run s with ⟨f | a, t⟩
  · rw [run] at attempted
    cases attempted with
    | failed _ same => exact .failed f same
  · rw [run] at attempted
    obtain ⟨b, u, ends, same⟩ := rest a t
    cases attempted with
    | done _ committed =>
      simp only [ends]
      exact .done b (same ▸ committed)

/-! ## Success -/

theorem run_document_bind (next : Document → Editing α) (s : Editor) :
    (document >>= next).run s = (next s.document).run s := rfl

theorem run_ofExcept_bind_eq_ok_iff {outcome : Except Fault α} {s t : Editor} {b : β} :
    (ofExcept outcome >>= next).run s = (.ok b, t) ↔
      ∃ a, outcome = .ok a ∧ (next a).run s = (.ok b, t) := by
  rw [Outcome.run_bind, Outcome.run_ofExcept]
  cases outcome with
  | error f => exact ⟨nofun, fun ⟨_, given, _⟩ => nomatch given⟩
  | ok a => exact ⟨fun done => ⟨a, rfl, done⟩, fun ⟨_, given, done⟩ => Except.ok.inj given ▸ done⟩

/-- What comes after a commit leaves the document as it was committed. -/
theorem run_bind_eq_ok_of_settles (rest : ∀ a, Settles (next a)) {s t : Editor} {b : β}
    (done : (x >>= next).run s = (.ok b, t)) :
    ∃ a u, x.run s = (.ok a, u) ∧ t.document = u.document := by
  obtain ⟨a, u, first, last⟩ := Outcome.run_bind_eq_ok_iff.1 done
  obtain ⟨_, _, ends, same⟩ := rest a u
  rw [last] at ends
  cases ends
  exact ⟨a, u, first, same⟩

end Editing

namespace Document

open Editing

variable {s t : Editor}

/-! ## Graphs after an edit -/

theorem data_of_commit {nodes : List Node} {edges : List Edge} {settings : Settings}
    (done : (commit (Graph.ofParts nodes edges settings)).run s = (.ok (), t)) :
    t.document.data = ⟨nodes, edges, settings⟩ := by
  cases built : Graph.ofParts nodes edges settings with
  | ok g =>
    rw [built] at done
    cases done
    exact (Graph.ofParts_eq_ok_iff.1 built).1.symm
  | bad issues =>
    rw [built] at done
    cases done

theorem data_of_addNode {n : Node} (done : (addNode n).run s = (.ok (), t)) :
    t.document.data = { s.document.data with nodes := s.document.data.nodes ++ [n] } := by
  obtain ⟨_, u, committed, same⟩ := run_bind_eq_ok_of_settles (fun _ => settles_note _) done
  rw [same]
  exact data_of_commit committed

theorem data_of_createNode {kind place : Value} {n : Node}
    (done : (createNode kind place).run s = (.ok n, t)) :
    t.document.data = { s.document.data with nodes := s.document.data.nodes ++ [n] } := by
  unfold createNode at done
  split at done
  · cases done
  · next c _ =>
    rw [run_document_bind] at done
    obtain ⟨id, u, found, done⟩ := Outcome.run_bind_eq_ok_iff.1 done
    have kept := reads_newId s.document.data.nodeIds c s
    rw [found] at kept
    obtain ⟨p, -, done⟩ := run_ofExcept_bind_eq_ok_iff.1 done
    obtain ⟨_, v, added, given⟩ := Outcome.run_bind_eq_ok_iff.1 done
    cases given
    rw [data_of_addNode added, kept]

theorem removeNode_eq_ok {id : Value} (done : (removeNode id).run s = (.ok (), t)) :
    ∃ n, s.document.find id = .ok n ∧ t.document.data = { s.document.data with
      nodes := s.document.data.nodes.filter fun k => k.id != n.id
      edges := s.document.data.edges.filter fun e => !touches n.id e } := by
  obtain ⟨n, found, done⟩ := run_ofExcept_bind_eq_ok_iff.1 done
  obtain ⟨_, u, committed, same⟩ := run_bind_eq_ok_of_settles (fun _ => settles_note _) done
  refine ⟨n, found, ?_⟩
  rw [same]
  exact data_of_commit committed

/-- A node is changed if it is found and it can be read with the changes, and then it is put in its
place. -/
theorem updateNode_eq_ok {id : Value} {changes : Fields} {m : Node}
    (done : (updateNode id changes).run s = (.ok m, t)) :
    ∃ n, s.document.find id = .ok n ∧ changedNode n changes = .ok m ∧
      t.document.data =
        { s.document.data with nodes := putNode n.id m s.document.data.nodes } := by
  obtain ⟨n, found, done⟩ := run_ofExcept_bind_eq_ok_iff.1 done
  obtain ⟨m', read, done⟩ := run_ofExcept_bind_eq_ok_iff.1 done
  obtain ⟨_, u, committed, given⟩ := Outcome.run_bind_eq_ok_iff.1 done
  cases given
  exact ⟨n, found, read, data_of_commit committed⟩

theorem updateSettings_eq_ok {changes : Fields}
    (done : (updateSettings changes).run s = (.ok (), t)) :
    ∃ settings, Settings.read (changed s.document.data.settings.toValue changes) = .ok settings ∧
      t.document.data = { s.document.data with settings := settings } := by
  cases built : withSettings changes s.document.data with
  | ok g =>
    obtain ⟨settings, read, parts⟩ := Reading.andThen_eq_ok_iff.1 built
    rw [updateSettings, run_document_bind, built] at done
    cases done
    exact ⟨settings, Reading.under_eq_ok_iff.1 read, (Graph.ofParts_eq_ok_iff.1 parts).1.symm⟩
  | bad issues =>
    rw [updateSettings, run_document_bind, built] at done
    cases done

end Document

namespace Document

open Editing

/-! ## Edits -/

theorem commits_ofParts (nodes : List Node) (edges : List Edge) (settings : Settings) :
    Commits (commit (Graph.ofParts nodes edges settings)) :=
  commits_commit fun _ read => (Graph.ofParts_eq_ok_iff.1 read).2

theorem commits_replaceNodes (nodes : List Node) : Commits (replaceNodes nodes) :=
  reads_document.bind fun _ => commits_ofParts _ _ _

theorem commits_replaceEdges (edges : List Edge) : Commits (replaceEdges edges) :=
  reads_document.bind fun _ => commits_ofParts _ _ _

theorem commits_addNode (n : Node) : Commits (addNode n) :=
  reads_document.bind fun _ => (commits_replaceNodes _).bind fun _ => settles_note _

theorem commits_removeNode (id : Value) : Commits (removeNode id) :=
  reads_document.bind fun _ => (reads_ofExcept _).bind fun _ =>
    (commits_ofParts _ _ _).bind fun _ => settles_note _

theorem commits_updateNode (id : Value) (changes : Fields) : Commits (updateNode id changes) :=
  reads_document.bind fun _ => (reads_ofExcept _).bind fun _ => (reads_ofExcept _).bind fun m =>
    (commits_replaceNodes _).bind fun _ => settles_pure m

theorem commits_updateSettings (changes : Fields) : Commits (updateSettings changes) := by
  refine reads_document.bind fun d => commits_commit fun g read => ?_
  obtain ⟨settings, -, built⟩ := Reading.andThen_eq_ok_iff.1 read
  exact (Graph.ofParts_eq_ok_iff.1 built).2

theorem commits_createNode (kind place : Value) : Commits (createNode kind place) := by
  unfold createNode
  split
  · exact commits_throw _
  · exact reads_document.bind fun _ => (reads_newId _ _).bind fun _ => (reads_ofExcept _).bind
      fun _ => (commits_addNode _).bind fun _ => settles_pure _

/-! ## Saving -/

/-- The document without the mark of unsaved changes. -/
def unmarked (d : Document) : Document := { d with hasUnsavedChanges := false }

/-- The document after it was saved at a time. -/
def saved (time : Instant) (d : Document) : Document :=
  { d.unmarked with row := d.row.map fun p => { p with data := d.data, updatedAt := time } }

/-- What keeps a document from being saved: its graph goes into a row and cannot be copied. -/
def saveFault? (d : Document) : Option Fault := d.row.bind fun _ => d.data.toValue.copyFault?

theorem run_storeIn (p : Project) (s : Editor) :
    (storeIn p).run s =
      match copyOf s.document.data with
      | .error f => (.error f, s)
      | .ok data =>
        (.ok (), ⟨{ s.document with row := some { p with data := data, updatedAt := s.clock.now } },
          s.clock.next, s.log⟩) := by
  show (ofExcept (copyOf s.document.data) >>= _ : Editing Unit).run s = _
  rw [Outcome.run_bind, Outcome.run_ofExcept]
  cases copyOf s.document.data <;> rfl

/-- A document that cannot be saved is marked as saved all the same. -/
theorem run_markSaved_of_fault {s : Editor} {f : Fault} (kept : s.document.saveFault? = some f) :
    markSaved.run s = (.error f, { s with document := s.document.unmarked }) := by
  obtain ⟨⟨data, row, flag⟩, clock, log⟩ := s
  obtain ⟨p, rfl, uncopyable⟩ := Option.bind_eq_some_iff.1 kept
  have copying : copyOf data = .error f := by
    rw [copyOf, show data.toValue.copyFault? = some f from uncopyable]
    rfl
  show (storeIn p).run ⟨⟨data, some p, false⟩, clock, log⟩ = _
  rw [run_storeIn]
  simp only [copying]
  rfl

theorem run_markSaved_of_none {s : Editor} (free : s.document.saveFault? = none) :
    ∃ t, markSaved.run s = (.ok (), t) ∧ t.document = s.document.saved s.clock.now := by
  obtain ⟨⟨data, row, flag⟩, clock, log⟩ := s
  cases row with
  | none => exact ⟨_, rfl, rfl⟩
  | some p =>
    have copying : copyOf data = .ok data := by
      rw [copyOf, show data.toValue.copyFault? = none from free]
      rfl
    refine ⟨⟨saved clock.now ⟨data, some p, flag⟩, clock.next, log⟩, ?_, rfl⟩
    show (storeIn p).run ⟨⟨data, some p, false⟩, clock, log⟩ = _
    rw [run_storeIn]
    simp only [copying]
    rfl

end Document

namespace Edit

open Editing

/-- Every edit other than saving commits. -/
theorem commits_perform {e : Edit} (edits : e ≠ markSaved) : Commits e.perform := by
  cases e with
  | createNode kind place => exact (Document.commits_createNode _ _).bind fun _ => settles_pure _
  | addNode n => exact (Document.commits_addNode n).bind fun _ => settles_pure _
  | removeNode id => exact (Document.commits_removeNode id).bind fun _ => settles_pure _
  | updateNode id changes => exact (Document.commits_updateNode _ _).bind fun _ => settles_pure _
  | replaceNodes nodes => exact (Document.commits_replaceNodes nodes).bind fun _ => settles_pure _
  | replaceEdges edges => exact (Document.commits_replaceEdges edges).bind fun _ => settles_pure _
  | updateSettings changes =>
    exact (Document.commits_updateSettings changes).bind fun _ => settles_pure _
  | markSaved => exact absurd rfl edits

end Edit

namespace Editor

open Document (Committed)

/-! ## Steps -/

/-- What a step leaves of a document. -/
inductive Leaves (d : Document) (e : Edit) (d' : Document) : Except Fault (Option Node) → Prop
  | failed (f : Fault) (edits : e ≠ .markSaved) (same : d' = d) : Leaves d e d' (.error f)
  | edited (made : Option Node) (edits : e ≠ .markSaved) (committed : Committed d d') :
    Leaves d e d' (.ok made)
  | saved (time : Instant) (saves : e = .markSaved) (free : d.saveFault? = none)
    (same : d' = d.saved time) : Leaves d e d' (.ok none)
  | unsaved (f : Fault) (saves : e = .markSaved) (kept : d.saveFault? = some f)
    (same : d' = d.unmarked) : Leaves d e d' (.error f)

theorem leaves_step (s : Editor) (e : Edit) :
    Leaves s.document e (s.step e).2.document (s.step e).1 := by
  by_cases saves : e = .markSaved
  · subst saves
    rw [step, Edit.perform, Outcome.run_bind]
    cases kept : s.document.saveFault? with
    | some f =>
      rw [Document.run_markSaved_of_fault kept]
      exact .unsaved f rfl kept rfl
    | none =>
      obtain ⟨t, run, same⟩ := Document.run_markSaved_of_none kept
      rw [run]
      exact .saved s.clock.now rfl kept same
  · have attempted := Edit.commits_perform saves s
    rw [step]
    rcases run : e.perform.run s with ⟨outcome, t⟩
    rw [run] at attempted
    cases attempted with
    | failed f same => exact .failed f saves same
    | done made committed => exact .edited made saves committed

theorem Leaves.distinct {d d' : Document} {e : Edit} {answer : Except Fault (Option Node)}
    (leaves : Leaves d e d' answer) (before : d.data.nodeIds.Nodup) : d'.data.nodeIds.Nodup := by
  cases leaves with
  | failed f edits same => exact same ▸ before
  | edited made edits committed => exact committed.distinct
  | saved time saves free same => exact same ▸ before
  | unsaved f saves kept same => exact same ▸ before

/-! ## Sessions -/

theorem run_concat (s : Editor) (edits : List Edit) (e : Edit) :
    s.run (edits ++ [e]) = ((s.run edits).step e).2 := by
  simp [run, List.foldl_append]

/-- Every document of a session has ids that differ, by induction on its edits. -/
theorem distinct_run {start : Editor} (distinct : start.document.data.nodeIds.Nodup)
    (edits : List Edit) : (start.run edits).document.data.nodeIds.Nodup := by
  induction edits generalizing start with
  | nil => exact distinct
  | cons e edits ih => exact ih ((leaves_step start e).distinct distinct)

/-- A step that loses the mark of unsaved changes: an attempt to save what cannot be saved. -/
def LosesMark (s : Editor) (e : Edit) : Prop :=
  e = .markSaved ∧ s.document.hasUnsavedChanges = true ∧ ∃ f, s.document.saveFault? = some f

/-- Where there is no mark that could be lost, an attempt to save loses nothing. -/
theorem unmarked_eq_self {s : Editor} {e : Edit} {f : Fault} (saves : e = .markSaved)
    (kept : s.document.saveFault? = some f) (safe : ¬s.LosesMark e) :
    s.document.unmarked = s.document := by
  have unmarked : s.document.hasUnsavedChanges = false := by
    by_contra marked
    exact safe ⟨saves, by simpa using marked, f, kept⟩
  rw [Document.unmarked, ← unmarked]

/-- Editing keeps ids apart, and it is atomic but for attempts to save.  After any steps on a
document whose ids differ, the next step leaves a document whose ids differ.  If the step fails, it
leaves the document as it was, unless it loses the mark of unsaved changes.  Then it fails, and the
mark is all that is lost.  A step that succeeds commits another graph, or saves the one there is. -/
theorem edits_atomic_unless_mark_lost {start : Editor}
    (distinct : start.document.data.nodeIds.Nodup) (edits : List Edit) (e : Edit) :
    let before := start.run edits
    let answer := (before.step e).1
    let after := start.run (edits ++ [e])
    after.document.data.nodeIds.Nodup ∧
      (∀ f, answer = .error f → ¬before.LosesMark e → after.document = before.document) ∧
      (before.LosesMark e → (∃ f, answer = .error f) ∧
        after.document = { before.document with hasUnsavedChanges := false }) ∧
      (∀ made, answer = .ok made →
        e ≠ .markSaved ∧ Committed before.document after.document ∨
          e = .markSaved ∧ ∃ time, after.document = before.document.saved time) := by
  intro before answer after
  have leaves : Leaves before.document e after.document answer := by
    show Leaves _ e (start.run (edits ++ [e])).document _
    rw [run_concat]
    exact leaves_step (start.run edits) e
  clear_value answer
  refine ⟨distinct_run distinct (edits ++ [e]), fun f failed safe => ?_, fun lost => ?_,
    fun made done => ?_⟩
  · rw [failed] at leaves
    cases leaves with
    | failed _ _ same => exact same
    | unsaved _ saves kept same => exact same.trans (unmarked_eq_self saves kept safe)
  · obtain ⟨saves, -, f, kept⟩ := lost
    cases leaves with
    | failed f edits same => exact absurd saves edits
    | edited made edits committed => exact absurd saves edits
    | saved time _ free same =>
      rw [kept] at free
      cases free
    | unsaved f _ _ same => exact ⟨⟨f, rfl⟩, same⟩
  · rw [done] at leaves
    cases leaves with
    | edited _ edits committed => exact .inl ⟨edits, committed⟩
    | saved time saves free same => exact .inr ⟨saves, time, same⟩

/-- A session on a document with two nodes. -/
def pairEditor : Editor :=
  let node (id : String) : Node := Document.newNode .button id Document.origin
  ⟨.ofGraph ⟨[node "a", node "b"], [], .initial⟩, .ticking 0 1000, []⟩

/-- One node is renamed, and then the other is to be given the same name. -/
theorem edits_atomic_unless_mark_lost_renamed :
    let edits := [Edit.updateNode (.text "a") [("id", .text "c")]]
    let e := Edit.updateNode (.text "b") [("id", .text "c")]
    pairEditor.document.data.nodeIds.Nodup ∧
    (pairEditor.run edits).document.data.nodeIds = ["c", "b"] ∧
    ((pairEditor.run edits).step e).1 =
      .error (.invalidProject ["<root>: Value error, duplicate node ids: c"]) ∧
    ¬(pairEditor.run edits).LosesMark e ∧
    (pairEditor.run (edits ++ [e])).document = (pairEditor.run edits).document ∧
    (pairEditor.run (edits ++ [e])).document.data.nodeIds.Nodup := by
  intro edits e
  have distinct : pairEditor.document.data.nodeIds.Nodup := by decide
  have rejected : ((pairEditor.run edits).step e).1 =
      .error (.invalidProject ["<root>: Value error, duplicate node ids: c"]) := by rfl
  have safe : ¬(pairEditor.run edits).LosesMark e := fun lost => nomatch lost.1
  have atomic := edits_atomic_unless_mark_lost distinct edits e
  exact ⟨distinct, rfl, rejected, safe, atomic.2.1 _ rejected safe, atomic.1⟩

/-- A session on the document of a project without nodes. -/
def rowEditor : Editor :=
  let g : Graph := ⟨[], [], .initial⟩
  ⟨⟨g, some ⟨default, default, "Demo", g, default, default, false⟩, false⟩, .ticking 0 1000, []⟩

/-- A change of the variables to one that cannot be copied. -/
def holdUncopyable : Edit :=
  let held : Value := .record [("__dataclass_fields__", .object []), ("__deepcopy__", .int 1)]
  .updateSettings [("variables", .object [("v", held)])]

/-- A step that fails does not always leave the mark of unsaved changes as it was. -/
theorem edits_atomic_fails :
    ¬∀ (start : Editor) (edits : List Edit) (e : Edit) (f : Fault),
      start.document.data.nodeIds.Nodup → ((start.run edits).step e).1 = .error f →
      (start.run (edits ++ [e])).document.hasUnsavedChanges =
        (start.run edits).document.hasUnsavedChanges := by
  intro always
  have kept : false = true := always rowEditor [holdUncopyable] .markSaved _ (by decide) rfl
  cases kept

end Editor

end EventCanvas
