import EventCanvas.Proofs.Entries
import EventCanvas.Proofs.Graph.Repetition
import EventCanvas.Proofs.Table

/-!
# Graphs whose ids differ

A graph is accepted only if the ids of its nodes differ from one another.  Then
the runtime records of a session are one for each node, under its id.

* `Graph.nodup_of_checkIds`: an accepted graph has no id twice.
* `Graph.node?_of_mem`: a node is found by its id.
* `Graph.lookup_runtimeNodes_of_mem`: its runtime record is found under its id.
-/

namespace EventCanvas.Graph

/-! ## Ids that differ -/

theorem checkIds_eq_ok_iff {input : Value} {g h : Graph} :
    checkIds input g = .ok h ↔ g = h ∧ g.nodeIds.Nodup := by
  unfold checkIds
  split
  · next none => simp [repeatedIds_eq_nil_iff.1 none]
  · next some =>
    have repeated : ¬ g.nodeIds.Nodup := mt repeatedIds_eq_nil_iff.2 some
    simp [Reading.issue, repeated]

/-- A graph with a repeated id is rejected with the repeated ids. -/
theorem checkIds_of_not_nodup {g : Graph} (repeated : ¬g.nodeIds.Nodup) (input : Value) :
    checkIds input g = .issue (.duplicateIds (repeatedIds g.nodeIds)) input := by
  unfold checkIds
  split
  · next none => exact absurd (repeatedIds_eq_nil_iff.1 none) repeated
  · rfl

theorem nodup_of_checkIds {input : Value} {g : Graph} (valid : checkIds input g = .ok g) :
    g.nodeIds.Nodup :=
  (checkIds_eq_ok_iff.1 valid).2

/-- Where ids differ no other node stands in front of one with its id. -/
theorem node?_of_mem {g : Graph} (nodup : g.nodeIds.Nodup) {n : Node} (member : n ∈ g.nodes) :
    g.node? n.id = some n := by
  obtain ⟨before, after, split⟩ := List.append_of_mem member
  refine List.find?_eq_some_iff_append.2 ⟨beq_self_eq_true n.id, before, after, split, ?_⟩
  intro m earlier
  rw [nodeIds, split, List.map_append, List.map_cons] at nodup
  have ne : m.id ≠ n.id :=
    (List.nodup_append.1 nodup).2.2 m.id (List.mem_map_of_mem earlier) n.id List.mem_cons_self
  simp [ne]

/-! ## Runtime records -/

/-- The entry of a node in the table of runtime records. -/
def runtimeEntry (n : Node) : Value × Value := (.text n.id, runtimeRecord n.data)

theorem lookup_merge_runtimeEntry {nodes : List Node} {s : String} (other : s ∉ nodes.map Node.id)
    (t : Table) : Entries.lookup (.text s) (Entries.merge t (nodes.map runtimeEntry)) =
      Entries.lookup (.text s) t := by
  induction nodes generalizing t with
  | nil => rfl
  | cons n nodes ih =>
    rw [List.map_cons, List.mem_cons, not_or] at other
    have ne : Value.text n.id ≠ .text s := fun same => other.1 (Value.text.inj same).symm
    exact (ih other.2 _).trans (Table.lookup_put_of_ne ne _ t)

/-- Entries of nodes whose ids are new and differ come after all that was there. -/
theorem merge_runtimeEntry {nodes : List Node} (nodup : (nodes.map Node.id).Nodup) (t : Table)
    (new : ∀ n ∈ nodes, Entries.lookup (.text n.id) t = none) :
    Entries.merge t (nodes.map runtimeEntry) = t ++ nodes.map runtimeEntry := by
  induction nodes generalizing t with
  | nil => exact (List.append_nil t).symm
  | cons n nodes ih =>
    obtain ⟨once, nodup⟩ := List.nodup_cons.1 nodup
    have first : Entries.put (runtimeEntry n).1 (runtimeEntry n).2 t = t ++ [runtimeEntry n] :=
      Entries.put_of_lookup_eq_none (new n List.mem_cons_self) _
    have later : ∀ m ∈ nodes,
        Entries.lookup (.text m.id) (t ++ [runtimeEntry n]) = none := fun m member => by
      have ne : Value.text n.id ≠ .text m.id := fun same =>
        once (List.mem_map.2 ⟨m, member, (Value.text.inj same).symm⟩)
      rw [Entries.lookup_append, new m (List.mem_cons_of_mem n member), Option.none_or]
      simp [Entries.lookup, runtimeEntry, Ne.symm ne]
    show Entries.merge (Entries.put _ _ t) _ = _
    rw [first, ih nodup _ later, List.append_assoc]
    rfl

variable {g : Graph}

/-- Where ids differ the runtime records are one for each node, in order. -/
theorem runtimeNodes_eq_map (nodup : g.nodeIds.Nodup) :
    g.runtimeNodes = g.nodes.map runtimeEntry :=
  merge_runtimeEntry nodup [] fun _ _ => rfl

theorem keys_runtimeNodes (nodup : g.nodeIds.Nodup) :
    Entries.keys g.runtimeNodes = g.nodeIds.map .text := by
  rw [runtimeNodes_eq_map nodup, Entries.keys, nodeIds, List.map_map, List.map_map]
  rfl

theorem lookup_runtimeNodes_of_not_mem {s : String} (other : s ∉ g.nodeIds) :
    Entries.lookup (.text s) g.runtimeNodes = none :=
  lookup_merge_runtimeEntry other []

theorem lookup_runtimeNodes_of_mem (nodup : g.nodeIds.Nodup) {n : Node} (member : n ∈ g.nodes) :
    Entries.lookup (.text n.id) g.runtimeNodes = some (runtimeRecord n.data) := by
  obtain ⟨before, after, split⟩ := List.append_of_mem member
  have last : n.id ∉ after.map Node.id := by
    rw [nodeIds, split, List.map_append, List.map_cons] at nodup
    exact (List.nodup_cons.1 (List.nodup_append.1 nodup).2.1).1
  have merged : g.runtimeNodes = Entries.merge
      (Entries.put (.text n.id) (runtimeRecord n.data)
        (Entries.merge [] (before.map runtimeEntry))) (after.map runtimeEntry) := by
    show (g.nodes.map runtimeEntry).foldl _ [] = _
    rw [split, List.map_append, List.foldl_append]
    rfl
  rw [merged, lookup_merge_runtimeEntry last, Table.lookup_put_self]

end EventCanvas.Graph
