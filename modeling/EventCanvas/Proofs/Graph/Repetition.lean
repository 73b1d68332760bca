import EventCanvas.Graph
import Mathlib.Data.List.Duplicate
import Mathlib.Data.List.Induction

/-!
# Repeated ids

The check of a graph walks over the ids of its nodes with what it saw and what it reported so
far.  What it reports in the end is pinned down here by places alone, without the walk: an id is
reported if it occurs at least twice, once, and before another one if its second place comes
before the second place of the other.

* `Graph.SecondAt.unique`, `Graph.exists_secondAt_iff`: an id has one second place if it occurs at
  least twice, and else none.
* `Graph.Repeats.unique`: at most one row reports the repeated ids of a row.
* `Graph.repeats_repeatedFrom`: the walk reports them, from wherever it goes on.
-/

namespace EventCanvas.Graph

variable {ids reported others seen walked : List String} {id a b : String} {i j : Nat}

/-! ## Second places -/

/-- An id stands at a place of a row for the second time. -/
structure SecondAt (ids : List String) (id : String) (i : Nat) : Prop where
  here : ids[i]? = some id
  once : (ids.take i).count id = 1

namespace SecondAt

theorem lt_length (second : SecondAt ids id i) : i < ids.length :=
  (List.getElem?_eq_some_iff.1 second.here).1

/-- What follows a row does not matter to the places in it. -/
theorem append (second : SecondAt ids id i) (more : List String) : SecondAt (ids ++ more) id i where
  here := (List.getElem?_append_left second.lt_length).trans second.here
  once := by
    rw [List.take_append_of_le_length (Nat.le_of_lt second.lt_length)]
    exact second.once

/-- An id that occurred once and comes again comes for the second time. -/
theorem concat (once : ids.count id = 1) : SecondAt (ids ++ [id]) id ids.length where
  here := List.getElem?_concat_length
  once := by rwa [List.take_left' rfl]

/-- Behind its second place an id was there twice. -/
theorem two_le_count_take (second : SecondAt ids id i) (later : i < j) :
    2 ≤ (ids.take j).count id := by
  have upTo : (ids.take (i + 1)).count id = 2 := by
    rw [List.take_add_one, second.here, List.count_append, second.once]
    simp
  calc 2 = (ids.take (i + 1)).count id := upTo.symm
    _ ≤ (ids.take j).count id := (List.take_sublist_take_left later).count_le id

theorem two_le_count (second : SecondAt ids id i) : 2 ≤ ids.count id := by
  have whole := second.two_le_count_take second.lt_length
  rwa [List.take_length] at whole

theorem unique (first : SecondAt ids id i) (second : SecondAt ids id j) : i = j := by
  have firstOnce := first.once
  have secondOnce := second.once
  rcases Nat.lt_trichotomy i j with before | same | after
  · have twice := first.two_le_count_take before
    omega
  · exact same
  · have twice := second.two_le_count_take after
    omega

end SecondAt

theorem exists_secondAt_iff : (∃ i, SecondAt ids id i) ↔ 2 ≤ ids.count id := by
  constructor
  · rintro ⟨i, second⟩
    exact second.two_le_count
  · intro twice
    induction ids using List.reverseRecOn with
    | nil => simp at twice
    | append_singleton ids last ih =>
      by_cases before : 2 ≤ ids.count id
      · obtain ⟨i, second⟩ := ih before
        exact ⟨i, second.append [last]⟩
      -- The last id makes it two, so it is the one.
      · rw [List.count_append, List.count_singleton] at twice
        split at twice
        · next same =>
          obtain rfl : last = id := eq_of_beq same
          exact ⟨ids.length, .concat (by omega)⟩
        · omega

/-- An id is repeated before another one: its second place comes first. -/
def RepeatedBefore (ids : List String) (a b : String) : Prop :=
  ∃ i j, SecondAt ids a i ∧ SecondAt ids b j ∧ i < j

theorem RepeatedBefore.append (sooner : RepeatedBefore ids a b) (more : List String) :
    RepeatedBefore (ids ++ more) a b := by
  obtain ⟨i, j, first, second, before⟩ := sooner
  exact ⟨i, j, first.append more, second.append more, before⟩

theorem RepeatedBefore.asymm (sooner : RepeatedBefore ids a b) : ¬RepeatedBefore ids b a := by
  rintro ⟨j', i', second', first', before'⟩
  obtain ⟨i, j, first, second, before⟩ := sooner
  have sameFirst := first.unique first'
  have sameSecond := second.unique second'
  omega

/-- An id that was repeated is so before the one that comes for the second time now. -/
theorem RepeatedBefore.concat (twice : 2 ≤ ids.count a) (once : ids.count b = 1) :
    RepeatedBefore (ids ++ [b]) a b := by
  obtain ⟨i, second⟩ := exists_secondAt_iff.2 twice
  exact ⟨i, ids.length, second.append [b], .concat once, second.lt_length⟩

/-! ## Reports -/

theorem not_nodup_iff_repeated : ¬ids.Nodup ↔ ∃ id, 2 ≤ ids.count id := by
  rw [← List.exists_duplicate_iff_not_nodup]
  exact exists_congr fun id => List.duplicate_iff_two_le_count

/-- A row reports the repeated ids of another one: just those that occur at least twice, each
once, in the order of their second places. -/
structure Repeats (ids reported : List String) : Prop where
  distinct : reported.Nodup
  twice : ∀ id, id ∈ reported ↔ 2 ≤ ids.count id
  ordered : reported.Pairwise (RepeatedBefore ids)

namespace Repeats

theorem nil : Repeats [] [] where
  distinct := List.nodup_nil
  twice id := by simp
  ordered := .nil

/-- There is nothing to report just if all ids differ. -/
theorem eq_nil_iff (report : Repeats ids reported) : reported = [] ↔ ids.Nodup := by
  have repeated : (∃ id, id ∈ reported) ↔ ¬ids.Nodup :=
    (exists_congr report.twice).trans not_nodup_iff_repeated.symm
  rw [List.eq_nil_iff_forall_not_mem, ← not_exists, repeated, not_not]

/-- The repeated ids and their second places leave no choice. -/
theorem unique (report : Repeats ids reported) (again : Repeats ids others) : reported = others := by
  have perm : reported.Perm others :=
    (List.perm_ext_iff_of_nodup report.distinct again.distinct).2 fun id =>
      (report.twice id).trans (again.twice id).symm
  refine perm.eq_of_pairwise ?_ report.ordered again.ordered
  intro a b _ _ sooner later
  exact absurd later sooner.asymm

/-- An id that comes for the second time is reported last. -/
theorem concat (report : Repeats ids reported) (once : ids.count id = 1) :
    Repeats (ids ++ [id]) (reported ++ [id]) where
  distinct := by
    have new : id ∉ reported := by
      rw [report.twice]
      omega
    rw [← List.concat_eq_append]
    exact (List.nodup_concat reported id).2 ⟨new, report.distinct⟩
  twice other := by
    rw [List.mem_append, report.twice, List.count_append, List.mem_singleton]
    by_cases same : other = id
    · subst same
      simp [once]
    · simp [same, Ne.symm same]
  ordered := by
    rw [List.pairwise_append]
    refine ⟨report.ordered.imp fun sooner => sooner.append [id], List.pairwise_singleton _ _, ?_⟩
    intro earlier member last isLast
    obtain rfl := List.mem_singleton.1 isLast
    exact .concat ((report.twice earlier).1 member) once

/-- An id that comes for the first time, or was reported before, changes nothing. -/
theorem skip (report : Repeats ids reported) (otherwise : ids.count id ≠ 1) :
    Repeats (ids ++ [id]) reported where
  distinct := report.distinct
  twice other := by
    rw [report.twice, List.count_append, List.count_singleton]
    split
    · next same =>
      obtain rfl : id = other := eq_of_beq same
      omega
    · omega
  ordered := report.ordered.imp fun sooner => sooner.append [id]

end Repeats

/-! ## The walk -/

/-- What was walked over decides whether the next id is reported: it was seen, and is not among
the reported ones, just if it occurred once. -/
theorem seen_unreported_iff (report : Repeats walked reported)
    (saw : ∀ id, id ∈ seen ↔ id ∈ walked) :
    (seen.contains id && !reported.contains id) = true ↔ walked.count id = 1 := by
  have seen_iff : id ∈ seen ↔ 1 ≤ walked.count id := (saw id).trans List.one_le_count_iff.symm
  simp only [Bool.and_eq_true, Bool.not_eq_true', List.contains_eq_mem, decide_eq_true_eq,
    decide_eq_false_iff_not, seen_iff, report.twice]
  omega

/-- From wherever the walk goes on, it reports the repeated ids of all that was walked over. -/
theorem repeats_repeatedFrom (report : Repeats walked reported)
    (saw : ∀ id, id ∈ seen ↔ id ∈ walked) :
    Repeats (walked ++ ids) (repeatedFrom seen reported ids) := by
  induction ids generalizing seen reported walked with
  | nil =>
    rw [List.append_nil]
    exact report
  | cons id ids ih =>
    have sawNext : ∀ next, next ∈ id :: seen ↔ next ∈ walked ++ [id] := by
      intro next
      rw [List.mem_cons, List.mem_append, List.mem_singleton, saw, or_comm]
    rw [List.append_cons, repeatedFrom]
    split
    · next again => exact ih (report.concat ((seen_unreported_iff report saw).1 again)) sawNext
    · next otherwise =>
      exact ih (report.skip (mt (seen_unreported_iff report saw).2 otherwise)) sawNext

/-- The ids that the check reports are the repeated ones. -/
theorem repeats_repeatedIds (ids : List String) : Repeats ids (repeatedIds ids) :=
  repeats_repeatedFrom .nil fun _ => Iff.rfl

example : repeatedIds ["a", "b", "b", "a", "b"] = ["b", "a"] := by decide

theorem repeatedIds_eq_nil_iff : repeatedIds ids = [] ↔ ids.Nodup :=
  (repeats_repeatedIds ids).eq_nil_iff

end EventCanvas.Graph
