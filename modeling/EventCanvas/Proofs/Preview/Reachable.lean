import EventCanvas.Proofs.Preview.Following
import EventCanvas.Proofs.Preview.Recorder
import EventCanvas.Proofs.Reading

/-!
# Recorders that can come about

A recorder is made for some ids and changes only by the calls that are made on it.  The ids of
nodes and the names of variables in these calls are texts, so its tables have texts for keys, and
each text once.

What a call keeps is composed from what its parts keep (`Recorder.Ensures`): a part may also say
what it gives, and the parts after it rely on that.

* `Recorder.Call`: the calls.
* `Recorder.Reachable`: the recorders that come about by them, whether they fail or not.
* `Recorder.Reachable.isNamed`: the tables of such a recorder have texts for keys.
-/

namespace EventCanvas

/-- A snapshot is read from a table, or from a typed snapshot, with whatever it has under the names
of the fields. -/
theorem Snapshot.read_eq_ok_iff {v : Value} {s : Snapshot} :
    Snapshot.read v = .ok s ↔ Reading.admits .snapshot v = true ∧
      Reading.fieldD v nodeValuesNames [] Reading.table = .ok s.nodeValues ∧
      Reading.fieldD v ["variables"] [] Reading.table = .ok s.vars ∧
      Reading.fieldD v ["exportedAt", "exported_at"] none (Reading.optional Reading.instant) =
        .ok s.exportedAt := by
  rw [read, Reading.shaped_eq_ok_iff, Reading.map_seq_seq_eq_ok_iff]
  constructor
  · rintro ⟨admitted, _, _, _, nodeValues, vars, exportedAt, rfl⟩
    exact ⟨admitted, nodeValues, vars, exportedAt⟩
  · rintro ⟨admitted, nodeValues, vars, exportedAt⟩
    exact ⟨admitted, _, _, _, nodeValues, vars, exportedAt, rfl⟩

/-- What a notice names is a text. -/
def Notice.NamesText : Notice → Prop
  | variableChanged name _ => ∃ s, name = .text s
  | nodeUpdated id _ => ∃ s, id = .text s
  | alertShown _ | diagnosed _ => True

/-- The tables among the fields of a value have each name once. -/
def Value.HasProperTables (v : Value) : Prop :=
  ∀ name fs, Entries.lookup name v.fields = some (.object fs) → (Entries.keys fs).Nodup

namespace Recorder

variable {α β : Type}

/-- The tables of a recorder have texts for keys, each once. -/
structure IsNamed (r : Recorder) : Prop where
  nodeValues : Table.IsNamed r.nodeValues
  vars : Table.IsNamed r.vars

/-! ## What the parts of a call keep -/

/-- An operation keeps texts for keys, and what it gives, if anything, is of a kind. -/
def Ensures (x : Step α) (Given : α → Prop) : Prop :=
  ∀ r : Recorder, r.IsNamed → (x.run r).2.IsNamed ∧ ∀ a, (x.run r).1 = .ok a → Given a

/-- An operation keeps texts for keys. -/
abbrev KeepsNames (x : Step α) : Prop := Ensures x fun _ => True

namespace Ensures

variable {Given : α → Prop} {Then : β → Prop}

theorem pure {a : α} (given : Given a) : Ensures (Pure.pure a) Given :=
  fun _ named => ⟨named, fun _ same => Except.ok.inj same ▸ given⟩

theorem ofExcept {x : Except Fault α} (given : ∀ a, x = .ok a → Given a) :
    Ensures (Recorder.ofExcept x) Given := by
  cases x with
  | error f => exact fun _ named => ⟨named, nofun⟩
  | ok a => exact pure (given a rfl)

theorem asKey (s : String) : Ensures (Recorder.ofExcept (Value.text s).asKey) (· = .text s) :=
  ofExcept fun _ same => (Except.ok.inj same).symm

theorem get : Ensures (MonadState.get : Step Recorder) IsNamed :=
  fun _ named => ⟨named, fun _ same => Except.ok.inj same ▸ named⟩

theorem bind {x : Step α} {next : α → Step β} (first : Ensures x Given)
    (rest : ∀ a, Given a → Ensures (next a) Then) : Ensures (x >>= next) Then := by
  intro r named
  obtain ⟨kept, given⟩ := first r named
  rw [Outcome.run_bind]
  rcases run : x.run r with ⟨f | a, after⟩
  · rw [run] at kept
    exact ⟨kept, nofun⟩
  · rw [run] at kept given
    exact rest a (given a rfl) after kept

/-- The ids that a reset is given are texts, or they are the keys that there are. -/
theorem resetIds {given : Value}
    (texts : given = .null ∨ ∃ ids : List String, given.items? = .ok (ids.map .text)) :
    Ensures (resetIds given) fun vs => ∃ ids : List String, vs = ids.map .text := by
  unfold Recorder.resetIds
  split
  · refine get.bind fun r named => pure ?_
    obtain ⟨fs, -, table⟩ := named.nodeValues
    exact ⟨Entries.keys fs, table ▸ Table.keys_ofFields fs⟩
  · next some =>
    rcases texts with rfl | ⟨ids, yields⟩
    · exact absurd rfl some
    · exact ofExcept fun vs same => ⟨ids, Except.ok.inj (same.symm.trans yields)⟩

theorem blankValues (ids : List String) :
    Ensures (Recorder.ofExcept (blankValues (ids.map .text))) Table.IsNamed := by
  rw [blankValues_texts]
  exact pure (Table.isNamed_foldl_put ids (.text "") Table.isNamed_nil)

end Ensures

namespace KeepsNames

theorem throw (f : Fault) : KeepsNames (MonadExcept.throw f : Step α) :=
  fun _ named => ⟨named, nofun⟩

theorem now : KeepsNames now := fun _ named => ⟨⟨named.nodeValues, named.vars⟩, fun _ _ => trivial⟩

theorem ofExcept (x : Except Fault α) : KeepsNames (ofExcept x) := Ensures.ofExcept fun _ _ => trivial

theorem bind {x : Step α} {next : α → Step β} (first : KeepsNames x)
    (rest : ∀ a, KeepsNames (next a)) : KeepsNames (x >>= next) :=
  Ensures.bind first fun a _ => rest a

/-- A change that keeps texts for keys, before whatever else is done. -/
theorem modify_bind {f : Recorder → Recorder} {x : Step α}
    (kept : ∀ r : Recorder, r.IsNamed → (f r).IsNamed) (rest : KeepsNames x) :
    KeepsNames (modify f >>= fun _ => x) :=
  bind (fun r named => ⟨kept r named, fun _ _ => trivial⟩) fun _ => rest

/-! ## What calls keep -/

theorem record (action data : Value) : KeepsNames (record action data) := by
  unfold Recorder.record
  refine now.bind fun time => ?_
  cases entryOf action data time with
  | bad issues => exact throw _
  | ok e => exact modify_bind (fun _ named => ⟨named.nodeValues, named.vars⟩) (.pure trivial)

theorem updateNodeValue (id : String) (value : Value) :
    KeepsNames (updateNodeValue (.text id) value) := by
  refine (Ensures.asKey id).bind fun key same => ?_
  subst same
  exact modify_bind (fun _ named => ⟨named.nodeValues.put id value, named.vars⟩) (record _ _)

theorem updateVariable (name : String) (value : Value) :
    KeepsNames (updateVariable (.text name) value) := by
  refine (Ensures.asKey name).bind fun key same => ?_
  subst same
  exact modify_bind (fun _ named => ⟨named.nodeValues, named.vars.put name value⟩) (record _ _)

theorem recordUpdate (id : String) (updates : Value) :
    KeepsNames (recordUpdate (.text id) updates) := by
  refine (ofExcept _).bind fun carries => ?_
  cases carries with
  | false => exact (ofExcept _).bind fun fs => record _ _
  | true => exact (ofExcept _).bind fun value => updateNodeValue id value

theorem recordNotice {notice : Notice} (texts : notice.NamesText) :
    KeepsNames (recordNotice notice) := by
  cases notice with
  | variableChanged name value =>
    obtain ⟨s, rfl⟩ := texts
    exact (updateVariable s value).bind fun _ => .pure trivial
  | nodeUpdated id updates =>
    obtain ⟨s, rfl⟩ := texts
    exact (recordUpdate s updates).bind fun _ => .pure trivial
  | alertShown message => exact (record _ _).bind fun _ => .pure trivial
  | diagnosed d => exact .pure trivial

theorem reconcile {given : Value} {ids : List String}
    (yields : given.items? = .ok (ids.map .text)) : KeepsNames (reconcile given) := by
  intro r named
  rw [run_reconcile yields]
  split
  · exact ⟨named, fun _ _ => trivial⟩
  · refine ⟨⟨?_, named.vars⟩, fun _ _ => trivial⟩
    exact ⟨_, nodup_keys_keptFields r.nodeValues ids, keptValues_eq r.nodeValues ids⟩

theorem reset {given : Value}
    (texts : given = .null ∨ ∃ ids : List String, given.items? = .ok (ids.map .text)) :
    KeepsNames (reset given) := by
  refine (Ensures.resetIds texts).bind fun vs same => ?_
  obtain ⟨ids, rfl⟩ := same
  refine (Ensures.blankValues ids).bind fun blank named => ?_
  exact modify_bind (fun _ _ => ⟨named, Table.isNamed_nil⟩)
    ((record _ _).bind fun _ => .pure trivial)

theorem exportData : KeepsNames exportData := by
  unfold Recorder.exportData
  refine now.bind fun time => Ensures.get.bind fun r _ => ?_
  cases r.snapshot time with
  | bad issues => exact throw _
  | ok s => exact ofExcept _

/-- What is read as a table from a field has each name once. -/
theorem nodup_keys_of_fieldD {payload : Value} (proper : payload.HasProperTables)
    {names : List String} {fs : Fields}
    (found : Reading.fieldD payload names [] Reading.table = .ok fs) : (Entries.keys fs).Nodup := by
  rcases Reading.of_fieldD_eq_ok found with rfl | ⟨name, v, here, table⟩
  · exact List.nodup_nil
  · rw [Reading.table_eq_ok_iff.1 table] at here
    exact proper name fs here

theorem importData {payload : Value} (proper : payload.HasProperTables) :
    KeepsNames (importData payload) := by
  unfold Recorder.importData
  cases done : Snapshot.read payload with
  | bad issues => exact throw _
  | ok s =>
    obtain ⟨-, nodeValues, vars, -⟩ := Snapshot.read_eq_ok_iff.1 done
    refine modify_bind (fun r named => ⟨?_, ?_⟩) ((record _ _).bind fun _ => .pure trivial)
    · show Table.IsNamed (if Snapshot.nodeValuesNames.any (names payload) then _ else r.nodeValues)
      split
      · exact Table.isNamed_ofFields (nodup_keys_of_fieldD proper nodeValues)
      · exact named.nodeValues
    · show Table.IsNamed (if names payload "variables" then _ else r.vars)
      split
      · exact Table.isNamed_ofFields (nodup_keys_of_fieldD proper vars)
      · exact named.vars

end KeepsNames

/-! ## Calls -/

/-- The calls on a recorder.  Ids and names are texts, and tables have each name once. -/
inductive Call : {α : Type} → Step α → Prop
  | record (action data : Value) : Call (record action data)
  | updateNodeValue (id : String) (value : Value) : Call (updateNodeValue (.text id) value)
  | updateVariable (name : String) (value : Value) : Call (updateVariable (.text name) value)
  | reconcile {given : Value} (ids : List String) (yields : given.items? = .ok (ids.map .text)) :
    Call (reconcile given)
  | reset {given : Value}
    (texts : given = .null ∨ ∃ ids : List String, given.items? = .ok (ids.map .text)) : Call (reset given)
  | exportData : Call exportData
  | importData {payload : Value} (proper : payload.HasProperTables) : Call (importData payload)
  | recordNotice {notice : Notice} (texts : notice.NamesText) : Call (recordNotice notice)

theorem Call.keepsNames {x : Step α} (call : Call x) : KeepsNames x := by
  cases call with
  | record action data => exact .record action data
  | updateNodeValue id value => exact .updateNodeValue id value
  | updateVariable name value => exact .updateVariable name value
  | reconcile ids yields => exact .reconcile yields
  | reset texts => exact .reset texts
  | exportData => exact .exportData
  | importData proper => exact .importData proper
  | recordNotice texts => exact .recordNotice texts

/-- The recorders that come about: a new one for some ids, and what any calls leave of one, whether
they fail or not.  What a recorder logged may be handed on at any time. -/
inductive Reachable : Recorder → Prop
  | new (clock : Clock) (ids : List String) {r : Recorder}
    (made : new clock (ids.map .text) = .ok r) : Reachable r
  | call {r : Recorder} (before : Reachable r) {α : Type} {x : Step α} (call : Call x) :
    Reachable (x.run r).2
  | handOn {r : Recorder} (before : Reachable r) : Reachable { r with unlogged := [] }

theorem Reachable.isNamed {r : Recorder} (reached : Reachable r) : r.IsNamed := by
  induction reached with
  | new clock ids made =>
    rw [new_texts] at made
    cases made
    exact ⟨Table.isNamed_foldl_put ids (.text "") Table.isNamed_nil, Table.isNamed_nil⟩
  | call before call named => exact (call.keepsNames _ named).1
  | handOn before named => exact ⟨named.nodeValues, named.vars⟩

end Recorder

end EventCanvas
