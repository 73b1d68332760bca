import EventCanvas.Proofs.Instant
import EventCanvas.Proofs.Preview.Reachable

/-!
# Snapshots

The snapshot of a recorder is read back by any recorder, which then has the same node values and
variables.  An import reads the whole payload before it changes anything, and takes over the
tables that the payload names.

A value that stands too deep inside others cannot be stored: then there is no snapshot, and the
recorder is as it was but for its clock.

* `Recorder.Imported`: what an import does with the two tables and the history.
* `Recorder.run_exportData`: the snapshot, or why there is none.
* `Recorder.snapshot_restores`: snapshots restore, and imports are all or nothing.
* `Recorder.snapshot_restores_fails`: a variable that is nested too deep has no snapshot.
-/

namespace EventCanvas.Recorder

/-! ## What an import does -/

/-- The first value that a payload has under one of some names. -/
def named? (payload : Value) (names : List String) : Option Value :=
  names.findSome? fun name => Entries.lookup name payload.fields

/-- A table stays if a payload does not name it, and else the table that is named takes its place. -/
inductive Replaced : Option Value → Table → Table → Prop
  | unnamed (t : Table) : Replaced none t t
  | named (fs : Fields) (t : Table) : Replaced (some (.object fs)) t (Table.ofFields fs)

/-- A recorder took over the tables that a payload names, each or not, and recorded the payload. -/
structure Imported (payload : Value) (r after : Recorder) : Prop where
  nodeValues : Replaced (named? payload ["nodeValues", "node_values"]) r.nodeValues after.nodeValues
  vars : Replaced (named? payload ["variables"]) r.vars after.vars
  history : after.history = r.history ++ [⟨"Data imported", r.clock.now, payload⟩]

variable {r : Recorder} {payload : Value} {fs : Fields} {t : Table}

theorem present?_map_snd (owner : Value) (names : List String) :
    (Reading.present? owner names).map Prod.snd = named? owner names := by
  induction names with
  | nil => rfl
  | cons name names ih =>
    unfold Reading.present? named? List.findSome?
    cases Entries.lookup name owner.fields with
    | none => exact ih
    | some v => rfl

theorem any_names (fs : Fields) (known : List String) :
    known.any (names (.object fs)) = (named? (.object fs) known).isSome :=
  List.isSome_findSome?.symm

/-- What is read as a table from a field with an empty default takes the place of what there was if
there is such a field. -/
theorem replaced_of_fieldD {known : List String}
    (found : Reading.fieldD payload known [] Reading.table = .ok fs) (t : Table) :
    Replaced (named? payload known) t
      (if (named? payload known).isSome then Table.ofFields fs else t) := by
  rw [← present?_map_snd]
  unfold Reading.fieldD at found
  cases here : Reading.present? payload known with
  | none => exact .unnamed t
  | some e =>
    obtain ⟨name, v⟩ := e
    rw [here] at found
    obtain rfl := Reading.table_eq_ok_iff.1 (Reading.under_eq_ok_iff.1 found)
    exact .named fs t

/-- The recorder after an import, its log still to be handed on. -/
def importing (r : Recorder) (payload : Value) (s : Snapshot) : Recorder :=
  let entry : HistoryEntry := ⟨"Data imported", r.clock.now, .object payload.fields⟩
  { adopt payload s r with
    clock := r.clock.next
    history := r.history ++ [entry]
    unlogged := r.unlogged ++ [logLine entry] }

theorem run_importData (payload : Value) (r : Recorder) :
    (importData payload).run r =
      match Snapshot.read payload with
      | .bad issues => (.error (.invalid issues), r)
      | .ok s => (.ok (), r.importing payload s) := by
  unfold importData
  cases Snapshot.read payload <;> rfl

theorem imported_importing {s : Snapshot} (read : Snapshot.read (.object fs) = .ok s)
    (r : Recorder) : Imported (.object fs) r (r.importing (.object fs) s) := by
  obtain ⟨-, nodeValues, vars, -⟩ := Snapshot.read_eq_ok_iff.1 read
  have one : names (.object fs) "variables" = (named? (.object fs) ["variables"]).isSome := by
    rw [← any_names, List.any_cons, List.any_nil, Bool.or_false]
  refine ⟨?_, ?_, rfl⟩
  · show Replaced _ r.nodeValues (if Snapshot.nodeValuesNames.any (names (.object fs)) then _ else _)
    rw [any_names]
    exact replaced_of_fieldD nodeValues r.nodeValues
  · show Replaced _ r.vars (if names (.object fs) "variables" then _ else _)
    rw [one]
    exact replaced_of_fieldD vars r.vars

/-- An import of what is no snapshot tells why and changes nothing; of a snapshot it takes over just
what the payload names. -/
theorem imports_all_or_nothing (json : payload.IsJson) (r : Recorder) :
    (∃ issues, Snapshot.read payload = .bad issues ∧
      (importData payload).run r = (.error (.invalid issues), r)) ∨
      ∃ after, (importData payload).run r = (.ok (), after) ∧ Imported payload r after := by
  rw [run_importData]
  cases read : Snapshot.read payload with
  | bad issues => exact .inl ⟨issues, rfl, rfl⟩
  | ok s =>
    obtain ⟨fs, rfl⟩ := Reading.eq_object_of_admits json (Snapshot.read_eq_ok_iff.1 read).1
    exact .inr ⟨_, rfl, imported_importing read r⟩

/-! ## What an export gives -/

/-- The values of a recorder are those of a data format, with finite numbers. -/
def HoldsJson (r : Recorder) : Prop := ∀ e ∈ r.nodeValues ++ r.vars, e.2.IsJson ∧ e.2.IsFinite

/-- No value of a recorder stands too deep inside others. -/
def IsShallow (r : Recorder) : Prop := ∀ e ∈ r.nodeValues ++ r.vars, e.2.nesting < Value.maxDepth

instance (r : Recorder) : Decidable r.IsShallow :=
  inferInstanceAs (Decidable (∀ e ∈ r.nodeValues ++ r.vars, e.2.nesting < Value.maxDepth))

/-- The stored form of a snapshot. -/
def storedSnapshot (nodeValues vars : Fields) (time : Instant) : Value :=
  .object [("nodeValues", .object nodeValues), ("variables", .object vars),
    ("exportedAt", .text time.stamp)]

theorem flatten?_snapshot {nodeValues vars : Fields} (time : Instant)
    (nodes : (Value.object nodeValues).IsJson ∧ (Value.object nodeValues).IsFinite)
    (known : (Value.object vars).IsJson ∧ (Value.object vars).IsFinite) :
    (Snapshot.toValue ⟨nodeValues, vars, some time⟩).flatten? .full =
      if (Value.object nodeValues).nesting ≤ Value.maxDepth ∧
          (Value.object vars).nesting ≤ Value.maxDepth then
        .ok (storedSnapshot nodeValues vars time)
      else .error .tooDeep := by
  have obstacle : Value.declaredObstacle? 0 (Snapshot.toValue ⟨nodeValues, vars, some time⟩) =
      (Value.obstacleEntries? 0 nodeValues).or (Value.obstacleEntries? 0 vars) := by
    simp [Snapshot.toValue, Value.declaredObstacle?, Value.obstacleFields?, Shape.isFree,
      Shape.isFurther, Shape.declaredNames?]
  have flat : (Snapshot.toValue ⟨nodeValues, vars, some time⟩).flatten .full =
      storedSnapshot nodeValues vars time := by
    rw [storedSnapshot, ← nodes.1.flatten_eq_self nodes.2 .full,
      ← known.1.flatten_eq_self known.2 .full]
    rfl
  rw [Value.flatten?, obstacle, flat, nodes.1.obstacleEntries?_eq, known.1.obstacleEntries?_eq]
  by_cases shallow : (Value.object nodeValues).nesting ≤ Value.maxDepth
  · by_cases low : (Value.object vars).nesting ≤ Value.maxDepth <;> simp [shallow, low]
  · simp [shallow]

variable {nodeValues vars : Fields}

/-- What an export gives is the stored form of the snapshot, and only the clock moves. -/
theorem run_exportData (nodes : r.nodeValues = Table.ofFields nodeValues)
    (known : r.vars = Table.ofFields vars) :
    exportData.run r = ((Snapshot.toValue ⟨nodeValues, vars, some r.clock.now⟩).flatten? .full,
      { r with clock := r.clock.next }) := by
  have read : ({ r with clock := r.clock.next } : Recorder).snapshot r.clock.now =
      .ok ⟨nodeValues, vars, some r.clock.now⟩ := by
    unfold snapshot
    rw [nodes, known, Reading.namedTable_ofFields, Reading.namedTable_ofFields]
    rfl
  unfold exportData
  -- The clock is read first, and the snapshot is taken of the recorder after that.
  show (match ({ r with clock := r.clock.next } : Recorder).snapshot r.clock.now with
    | .bad issues => _
    | .ok s => _ : Step Value) { r with clock := r.clock.next } = _
  rw [read]
  show (ofExcept (Value.flatten? .full _) : Step Value).run { r with clock := r.clock.next } = _
  cases Value.flatten? .full (Snapshot.toValue ⟨nodeValues, vars, some r.clock.now⟩) <;> rfl

/-- A snapshot of a dated time is read back from its stored form. -/
theorem read_storedSnapshot {time : Instant} (civil : time.IsCivil) (dated : time.year ≠ 0)
    (universal : time.zone = .universal) :
    Snapshot.read (storedSnapshot nodeValues vars time) =
      .ok ⟨nodeValues, vars, some { time with zone := .offset 0 }⟩ := by
  have text := Instant.ofText?_stamp civil (by rw [universal]; rfl)
  have instant : Reading.instant (.text time.stamp) = .ok { time with zone := .offset 0 } := by
    rw [Reading.instant, text]
    exact if_neg dated
  refine Snapshot.read_eq_ok_iff.2 ⟨rfl, rfl, rfl, ?_⟩
  show Reading.under (.name "exportedAt") (some <$> Reading.instant (.text time.stamp)) = _
  rw [instant]
  rfl

theorem storable (distinct : (Entries.keys fs).Nodup)
    (values : ∀ e ∈ fs, e.2.IsJson ∧ e.2.IsFinite) :
    (Value.object fs).IsJson ∧ (Value.object fs).IsFinite :=
  ⟨Value.isJson_object_iff.2 ⟨distinct, fun e member => (values e member).1⟩,
    Value.isFinite_object_iff.2 fun e member => (values e member).2⟩

theorem forall_values (P : Value → Prop) (nodes : r.nodeValues = Table.ofFields nodeValues)
    (known : r.vars = Table.ofFields vars) :
    (∀ e ∈ r.nodeValues ++ r.vars, P e.2) ↔ (∀ e ∈ nodeValues, P e.2) ∧ ∀ e ∈ vars, P e.2 := by
  rw [List.forall_mem_append, nodes, known, Table.ofFields, Table.ofFields, List.forall_mem_map,
    List.forall_mem_map]

/-- The snapshot of a recorder is stored unless a value stands too deep inside others. -/
theorem run_exportData_of_holdsJson (reached : r.Reachable) (json : r.HoldsJson) :
    ∃ nodeValues vars, r.nodeValues = Table.ofFields nodeValues ∧ r.vars = Table.ofFields vars ∧
      exportData.run r =
        (if r.IsShallow then .ok (storedSnapshot nodeValues vars r.clock.now) else .error .tooDeep,
          { r with clock := r.clock.next }) := by
  obtain ⟨⟨nodeValues, distinct, nodes⟩, vars, distinct', known⟩ := reached.isNamed
  have values := (forall_values (fun v => v.IsJson ∧ v.IsFinite) nodes known).1 json
  have shallow : r.IsShallow ↔ (Value.object nodeValues).nesting ≤ Value.maxDepth ∧
      (Value.object vars).nesting ≤ Value.maxDepth := by
    rw [IsShallow, forall_values (·.nesting < Value.maxDepth) nodes known,
      Value.nesting_object_le_iff, Value.nesting_object_le_iff]
  refine ⟨nodeValues, vars, nodes, known, ?_⟩
  rw [run_exportData nodes known,
    flatten?_snapshot r.clock.now (storable distinct values.1) (storable distinct' values.2)]
  simp only [shallow]

/-- Snapshots restore, and imports are all or nothing.  The snapshot of a recorder, which there is
unless a value stands too deep inside others, gives any recorder the same node values and
variables; exporting changes nothing but the clock, which has to tell a year that a payload may
have.  An import of a payload that is no snapshot fails and changes nothing; any other import takes
over the tables that are named, leaves the others, and is recorded once. -/
theorem snapshot_restores {a : Recorder} (reached : a.Reachable) (json : a.HoldsJson)
    (dated : a.clock.now.year ≠ 0) :
    (a.IsShallow → ∃ v, exportData.run a = (.ok v, { a with clock := a.clock.next }) ∧
      ∀ b : Recorder, ∃ after, (importData v).run b = (.ok (), after) ∧
        after.nodeValues = a.nodeValues ∧ after.vars = a.vars ∧
        after.history = b.history ++ [⟨"Data imported", b.clock.now, v⟩]) ∧
      (¬a.IsShallow → exportData.run a = (.error .tooDeep, { a with clock := a.clock.next })) ∧
      ∀ (b : Recorder) (payload : Value), payload.IsJson →
        (∃ issues, Snapshot.read payload = .bad issues ∧
          (importData payload).run b = (.error (.invalid issues), b)) ∨
          ∃ after, (importData payload).run b = (.ok (), after) ∧ Imported payload b after := by
  obtain ⟨nodeValues, vars, nodes, known, exports⟩ := run_exportData_of_holdsJson reached json
  refine ⟨fun fits => ?_, fun deep => ?_, fun b payload json => imports_all_or_nothing json b⟩
  · obtain ⟨civil, universal⟩ : a.clock.now.IsCivil ∧ a.clock.now.zone = .universal :=
      Instant.isCivil_ofMillis dated
    have imports (b : Recorder) := run_importData (storedSnapshot nodeValues vars a.clock.now) b
    rw [read_storedSnapshot civil dated universal] at imports
    rw [if_pos fits] at exports
    exact ⟨_, exports, fun b => ⟨_, imports b, nodes.symm, known.symm, rfl⟩⟩
  · rw [exports, if_neg deep]

/-- A recorder of no nodes, made in the year 2024. -/
def fresh : Recorder := ⟨.ticking 1704067200000 1000, [], [], [], []⟩

/-- The recorder once a variable was given a value. -/
def holding (v : Value) : Recorder := ((updateVariable (.text "v") v).run fresh).2

theorem reachable_holding (v : Value) : (holding v).Reachable :=
  .call (.new (.ticking 1704067200000 1000) [] rfl) (.updateVariable "v" v)

theorem values_holding (v : Value) :
    (holding v).nodeValues ++ (holding v).vars = [(.text "v", v)] := rfl

theorem holdsJson_holding {v : Value} (json : v.IsJson) (finite : v.IsFinite) :
    (holding v).HoldsJson := by
  simpa [HoldsJson, values_holding] using ⟨json, finite⟩

theorem isShallow_holding_iff {v : Value} :
    (holding v).IsShallow ↔ v.nesting < Value.maxDepth := by
  simp [IsShallow, values_holding]

theorem dated_holding (v : Value) : (holding v).clock.now.year ≠ 0 := by
  have reading : (holding v).clock.millis = 1704067201000 := by
    show (1704067200000 + 1000 * ((0 + 1 : Nat) : Int)) = _
    decide
  rw [Clock.now, reading]
  decide +kernel

/-- A list in a variable is taken over from the snapshot. -/
theorem snapshot_restores_list :
    ∃ v after, exportData.run (holding (.list [.int 1])) =
        (.ok v, { holding (.list [.int 1]) with clock := (holding (.list [.int 1])).clock.next }) ∧
      (importData v).run fresh = (.ok (), after) ∧ after.vars = [(.text "v", .list [.int 1])] := by
  have json : (Value.list [.int 1]).IsJson ∧ (Value.list [.int 1]).IsFinite := by simp
  have shallow : (holding (.list [.int 1])).IsShallow := isShallow_holding_iff.2 (by decide)
  obtain ⟨v, exports, restores⟩ := (snapshot_restores (reachable_holding (.list [.int 1]))
    (holdsJson_holding json.1 json.2) (dated_holding _)).1 shallow
  obtain ⟨after, imports, -, vars, -⟩ := restores fresh
  exact ⟨v, after, exports, imports, vars⟩

/-- A variable whose value stands in too many lists has no snapshot. -/
theorem snapshot_restores_fails :
    let v := Value.wrapped 255 (.int 1)
    (holding v).Reachable ∧ (holding v).HoldsJson ∧
      ¬∃ snapshot after, exportData.run (holding v) = (.ok snapshot, after) := by
  intro v
  have json : v.IsJson ∧ v.IsFinite := by simp [v]
  have deep : ¬(holding v).IsShallow := by
    rw [isShallow_holding_iff]
    simp [v, Value.maxDepth]
  refine ⟨reachable_holding v, holdsJson_holding json.1 json.2, ?_⟩
  rintro ⟨snapshot, after, exports⟩
  obtain ⟨_, _, -, -, fails⟩ :=
    run_exportData_of_holdsJson (reachable_holding v) (holdsJson_holding json.1 json.2)
  rw [fails, if_neg deep] at exports
  cases exports

end EventCanvas.Recorder
