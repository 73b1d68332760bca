import EventCanvas.Preview.Recorder
import EventCanvas.Proofs.Outcome
import EventCanvas.Proofs.Table
import Mathlib.Data.List.Perm.Subperm

/-!
# Following the canvas

A recorder that follows the canvas to some ids should change only if they are not the ids it
has, and say how many it has afterwards.  It compares and counts the ids in the row that it
is given, so it does just that if no id is repeated there.

* `Recorder.Follows`: what following the canvas should come to.
* `Recorder.isUpToDate_iff`: what counts as no change.
* `Recorder.follows_unless_repeated`: what it comes to, with repeated ids and without.
* `Recorder.follows_fails`: with a repeated id, no change is taken for one.
-/

namespace EventCanvas.Recorder

/-- A table has some ids for its keys, and nothing else. -/
def HasIds (t : Table) (ids : List String) : Prop :=
  ∀ key, key ∈ Entries.keys t ↔ key ∈ ids.map Value.text

/-- The entry for a change of the ids of which there are `count`. -/
def configured (count : Nat) (time : Instant) : HistoryEntry :=
  ⟨"Node configuration changed", time, .object [("nodeCount", .int count)]⟩

/-- A recorder took over some ids and recorded that there are `count` of them. -/
structure Rekeyed (ids : List String) (count : Nat) (r after : Recorder) : Prop where
  keys : HasIds after.nodeValues ids
  distinct : (Entries.keys after.nodeValues).Nodup
  values : ∀ id ∈ ids, Entries.lookup (.text id) after.nodeValues =
    some ((Entries.lookup (.text id) r.nodeValues).getD (.text ""))
  vars : after.vars = r.vars
  history : after.history = r.history ++ [configured count r.clock.now]

/-- What following the canvas to some ids should come to: nothing if they are the ids that there
are, and else the ids are taken over and one entry tells how many there are now. -/
inductive Follows (ids : List String) (r : Recorder) : Bool → Recorder → Prop
  | upToDate (same : HasIds r.nodeValues ids) : Follows ids r false r
  | rekeyed {after : Recorder} (changed : ¬HasIds r.nodeValues ids)
    (taken : Rekeyed ids after.nodeValues.length r after) : Follows ids r true after

variable {r : Recorder} {t : Table} {ids : List String} {given : Value}

/-! ## Comparing -/

theorem contains_text (vs : List Value) (s : String) :
    vs.contains (.text s) = true ↔ .text s ∈ vs := by
  simp [List.contains_eq_any_beq, Value.text_beq]

theorem map_text_contains (ids : List String) (v : Value) :
    (ids.map Value.text).contains v = true ↔ v ∈ ids.map .text := by
  rw [List.contains_eq_any_beq, List.any_map, List.any_eq_true, List.mem_map]
  refine exists_congr fun id => and_congr_right fun _ => ?_
  exact (Value.beq_text id v).trans eq_comm

theorem sameSet_iff (t : Table) (ids : List String) :
    sameSet (ids.map .text) (Entries.keys t) = true ↔ HasIds t ids := by
  simp only [sameSet, Bool.and_eq_true, List.all_eq_true, map_text_contains, List.forall_mem_map,
    contains_text]
  exact ⟨fun ⟨there, known⟩ key => ⟨known key, fun named => by
      obtain ⟨id, member, rfl⟩ := List.mem_map.1 named
      exact there id member⟩,
    fun same => ⟨fun id member => (same _).2 (List.mem_map_of_mem member), fun key => (same key).1⟩⟩

theorem nodup_map_text : (ids.map Value.text).Nodup ↔ ids.Nodup :=
  List.nodup_map_iff fun _ _ => Value.text.inj

/-- A row with the same members as one without repeats is as long just if it has none either. -/
theorem length_eq_iff_nodup {α : Type} {xs ys : List α} (distinct : ys.Nodup)
    (same : ∀ a, a ∈ ys ↔ a ∈ xs) : xs.length = ys.length ↔ xs.Nodup := by
  have sub : ys.Subperm xs := List.subperm_of_subset distinct fun a => (same a).1
  constructor
  · intro lengths
    exact (sub.perm_of_length_le (Nat.le_of_eq lengths)).nodup_iff.1 distinct
  · intro nodup
    exact ((List.perm_ext_iff_of_nodup distinct nodup).2 same).length_eq.symm

/-- Nothing has to change if the ids are those that there are, and none is repeated. -/
theorem isUpToDate_iff (distinct : (Entries.keys t).Nodup) :
    isUpToDate t (ids.map .text) = true ↔ HasIds t ids ∧ ids.Nodup := by
  rw [isUpToDate, Bool.and_eq_true, sameSet_iff, beq_iff_eq]
  refine and_congr_right fun same => ?_
  rw [← Entries.length_keys t, length_eq_iff_nodup distinct same, nodup_map_text]

/-! ## Taking ids over -/

/-- The named values that a recorder has once it took some ids over. -/
def keptFields (t : Table) (ids : List String) : Fields :=
  Entries.ofPairs (ids.map fun id => (id, (Entries.lookup (.text id) t).getD (.text "")))

theorem keptValues_eq (t : Table) (ids : List String) :
    keptValues t (ids.map .text) = Table.ofFields (keptFields t ids) := by
  have pairs : (ids.map Value.text).map (fun id => (id, (Entries.lookup id t).getD (.text ""))) =
      Table.ofFields (ids.map fun id => (id, (Entries.lookup (.text id) t).getD (.text ""))) := by
    rw [Table.ofFields, List.map_map, List.map_map]
    rfl
  rw [keptValues, pairs]
  exact Table.merge_ofFields [] _

theorem mem_keys_keptFields {id : String} (t : Table) :
    id ∈ Entries.keys (keptFields t ids) ↔ id ∈ ids := by
  rw [keptFields, Entries.ofPairs, Entries.mem_keys_merge, Entries.keys_nil, Entries.keys,
    List.map_map]
  simp

theorem nodup_keys_keptFields (t : Table) (ids : List String) :
    (Entries.keys (keptFields t ids)).Nodup := by
  have empty : (Entries.keys ([] : Fields)).Nodup := List.nodup_nil
  exact Entries.nodup_keys_merge empty _

theorem lookup_keptFields {id : String} (t : Table) (member : id ∈ ids) :
    Entries.lookup id (keptFields t ids) =
      some ((Entries.lookup (.text id) t).getD (.text "")) := by
  rw [keptFields, Entries.ofPairs,
    Entries.lookup_merge_map fun id => (Entries.lookup (.text id) t).getD (.text ""), if_pos member]

/-- The recorder once it took some ids over, its log still to be handed on. -/
def rekey (r : Recorder) (ids : List String) : Recorder :=
  let entry := configured ids.length r.clock.now
  { r with
    clock := r.clock.next
    nodeValues := keptValues r.nodeValues (ids.map .text)
    history := r.history ++ [entry]
    unlogged := r.unlogged ++ [logLine entry] }

theorem rekeyed_rekey (r : Recorder) (ids : List String) :
    Rekeyed ids ids.length r (r.rekey ids) where
  keys key := by
    simp only [rekey, keptValues_eq, Table.keys_ofFields, List.mem_map, mem_keys_keptFields]
  distinct := by
    rw [rekey, keptValues_eq, Table.keys_ofFields, nodup_map_text]
    exact nodup_keys_keptFields r.nodeValues ids
  values id member := by
    rw [rekey, keptValues_eq, Table.lookup_ofFields, lookup_keptFields r.nodeValues member]
  vars := rfl
  history := rfl

/-- As many ids are counted as there are keys just if none is repeated. -/
theorem Rekeyed.length_eq_iff {after : Recorder} {count : Nat} (taken : Rekeyed ids count r after) :
    ids.length = after.nodeValues.length ↔ ids.Nodup := by
  rw [← Entries.length_keys after.nodeValues, ← nodup_map_text,
    ← length_eq_iff_nodup taken.distinct taken.keys, List.length_map]

/-! ## Following -/

theorem run_reconcile (yields : given.items? = .ok (ids.map .text)) (r : Recorder) :
    (reconcile given).run r =
      if isUpToDate r.nodeValues (ids.map .text) then (.ok false, r) else (.ok true, r.rekey ids) := by
  have keys : (ids.map Value.text).mapM Value.asKey = .ok (ids.map .text) := by
    have each : ∀ key ∈ ids.map Value.text, Value.asKey key = .ok (id key) :=
      List.forall_mem_map.2 fun _ _ => rfl
    rw [Outcome.mapM_eq_ok_map each, List.map_id]
  unfold reconcile
  rw [yields]
  simp only [ofExcept, pure_bind, keys]
  show ExceptT.run (if isUpToDate r.nodeValues (ids.map .text) then (pure false : Step Bool)
    else _) r = _
  split
  · rfl
  · rw [List.length_map]
    rfl

theorem configured_inj {m n : Nat} {time : Instant} (same : configured m time = configured n time) :
    m = n := by
  have counts : (m : Int) = n := by simpa [configured] using same
  exact Int.ofNat_inj.1 counts

/-- A change was recorded as it should be just if no id is repeated. -/
theorem follows_rekey_iff (distinct : (Entries.keys r.nodeValues).Nodup)
    (outdated : ¬isUpToDate r.nodeValues (ids.map .text)) :
    Follows ids r true (r.rekey ids) ↔ ids.Nodup := by
  have taken := rekeyed_rekey r ids
  constructor
  · intro follows
    cases follows with
    | rekeyed _ counted =>
      have entries := List.append_cancel_left (taken.history.symm.trans counted.history)
      exact taken.length_eq_iff.1 (configured_inj (List.cons.inj entries).1)
  · intro nodup
    refine .rekeyed (fun same => outdated ((isUpToDate_iff distinct).2 ⟨same, nodup⟩)) ?_
    rw [← taken.length_eq_iff.2 nodup]
    exact taken

/-- A recorder that follows the canvas to some ids does what it should just if no id is repeated;
just then it does it once.  If an id is repeated, the ids are taken over and counted as they are
given, whether they changed or not. -/
theorem follows_unless_repeated (distinct : (Entries.keys r.nodeValues).Nodup)
    (yields : given.items? = .ok (ids.map .text)) :
    ∃ changed after again last, (reconcile given).run r = (.ok changed, after) ∧
      (reconcile given).run after = (.ok again, last) ∧
      (Follows ids r changed after ↔ ids.Nodup) ∧
      (¬ids.Nodup → changed = true ∧ Rekeyed ids ids.length r after) ∧
      (last.history.length ≤ r.history.length + 1 ↔ ids.Nodup) := by
  by_cases same : isUpToDate r.nodeValues (ids.map .text) = true
  · obtain ⟨has, nodup⟩ := (isUpToDate_iff distinct).1 same
    have run : (reconcile given).run r = (.ok false, r) := by
      rw [run_reconcile yields, if_pos same]
    exact ⟨false, r, false, r, run, run, iff_of_true (.upToDate has) nodup,
      fun repeated => absurd nodup repeated, iff_of_true (Nat.le_succ _) nodup⟩
  · have taken := rekeyed_rekey r ids
    have once : (reconcile given).run r = (.ok true, r.rekey ids) := by
      rw [run_reconcile yields, if_neg same]
    have settled : isUpToDate (r.rekey ids).nodeValues (ids.map .text) = true ↔ ids.Nodup :=
      (isUpToDate_iff taken.distinct).trans (and_iff_right taken.keys)
    have follows := follows_rekey_iff distinct same
    have length : (r.rekey ids).history.length = r.history.length + 1 := by
      simp [taken.history]
    -- A row with a repeat is longer than the keys it leaves, so it is taken over every time.
    by_cases nodup : ids.Nodup
    · have twice : (reconcile given).run (r.rekey ids) = (.ok false, r.rekey ids) := by
        rw [run_reconcile yields, if_pos (settled.2 nodup)]
      exact ⟨true, _, false, _, once, twice, follows, fun _ => ⟨rfl, taken⟩,
        iff_of_true (Nat.le_of_eq length) nodup⟩
    · have twice : (reconcile given).run (r.rekey ids) = (.ok true, (r.rekey ids).rekey ids) := by
        rw [run_reconcile yields, if_neg (mt settled.1 nodup)]
      have longer : ((r.rekey ids).rekey ids).history.length = r.history.length + 2 := by
        simp [(rekeyed_rekey (r.rekey ids) ids).history, length]
      exact ⟨true, _, true, _, once, twice, follows, fun _ => ⟨rfl, taken⟩,
        iff_of_false (by omega) nodup⟩

/-- A recorder of two nodes, of which one has a value. -/
def halfFilled : Recorder :=
  ⟨.ticking 0 1000, [(.text "a", .text "typed"), (.text "b", .text "")], [], [], []⟩

/-- One node goes, another one comes, and the third keeps its value. -/
theorem follows_unless_repeated_replaced :
    (Entries.keys halfFilled.nodeValues).Nodup ∧
      ∃ changed after, (reconcile (.list [.text "c", .text "a"])).run halfFilled =
          (.ok changed, after) ∧
        Follows ["c", "a"] halfFilled changed after := by
  have distinct : (Entries.keys halfFilled.nodeValues).Nodup := by
    simp [halfFilled]
  have yields : (Value.list [.text "c", .text "a"]).items? = .ok (["c", "a"].map .text) := rfl
  obtain ⟨changed, after, -, -, run, -, follows, -, -⟩ := follows_unless_repeated distinct yields
  exact ⟨distinct, changed, after, run, follows.2 (by decide)⟩

/-- A new recorder of one node. -/
def single : Recorder := ⟨.ticking 0 1000, [(.text "a", .text "")], [], [], []⟩

/-- A repeated id is taken for a change of the ids, and the one key is counted twice. -/
theorem follows_fails : new (.ticking 0 1000) [.text "a"] = .ok single ∧
    HasIds single.nodeValues ["a", "a"] ∧
    ∃ after, (reconcile (.list [.text "a", .text "a"])).run single = (.ok true, after) ∧
      after.nodeValues = single.nodeValues ∧ after.history = [configured 2 single.clock.now] ∧
      ¬Follows ["a", "a"] single true after := by
  have has : HasIds single.nodeValues ["a", "a"] := fun key => by
    simp [single]
  have outdated : ¬isUpToDate single.nodeValues (["a", "a"].map .text) := by
    simp [isUpToDate, single]
  have yields : (Value.list [.text "a", .text "a"]).items? = .ok (["a", "a"].map .text) := rfl
  have run := run_reconcile yields single
  rw [if_neg outdated] at run
  refine ⟨rfl, has, single.rekey ["a", "a"], run, ?_, rfl, fun follows => ?_⟩
  · simp [rekey, keptValues, single, Entries.ofPairs, Entries.merge, Entries.put, Entries.lookup]
  · cases follows with
    | rekeyed changed _ => exact changed has

end EventCanvas.Recorder
