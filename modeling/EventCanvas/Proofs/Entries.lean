import EventCanvas.Entries
import Mathlib.Data.List.Nodup

/-!
# Laws of ordered entries

What is found in a table after it was changed, which entries it then has, and
which changes leave it as it is.

* `Entries.put_of_lookup`: to put what is there already changes nothing.
* `Entries.lookup_filter`: entries that are chosen by their keys are found as before.
* `Entries.foldl_putNew_eq_append`: entries that are put only where there are none come
  after all that was there.
* `Entries.lookup_foldl_putNew`: what was there is found before what was put.
-/

namespace EventCanvas.Entries

variable {κ α : Type} {k : κ} {a : α} {es more : Entries κ α}

/-! ## Keys -/

@[simp] theorem keys_nil : keys ([] : Entries κ α) = [] := rfl

@[simp] theorem keys_cons (e : κ × α) (es : Entries κ α) : keys (e :: es) = e.1 :: keys es := rfl

theorem length_keys (es : Entries κ α) : (keys es).length = es.length := List.length_map _

@[simp] theorem keys_append (es more : Entries κ α) :
    keys (es ++ more) = keys es ++ keys more := List.map_append

theorem nodup_keys_filter (nodup : (keys es).Nodup) (p : κ × α → Bool) :
    (keys (es.filter p)).Nodup :=
  nodup.sublist (List.filter_sublist.map _)

theorem nodup_keys_concat (nodup : (keys es).Nodup) (new : k ∉ keys es) (a : α) :
    (keys (es ++ [(k, a)])).Nodup := by
  rw [keys_append]
  refine List.nodup_append.2 ⟨nodup, List.nodup_singleton k, fun l there m last same => ?_⟩
  obtain rfl : m = k := List.mem_singleton.1 last
  exact new (same ▸ there)

variable [BEq κ]

/-! ## Putting what is there already -/

/-- To put what is there already changes nothing. -/
theorem put_of_lookup (found : lookup k es = some a) : put k a es = es := by
  induction es with
  | nil => cases found
  | cons e es ih =>
    obtain ⟨l, b⟩ := e
    rw [lookup_cons] at found
    rw [put]
    split at found
    · next hit =>
      cases found
      rw [if_pos hit]
    · next other => rw [if_neg other, ih found]

/-- What is put where there is nothing comes last. -/
theorem put_of_lookup_eq_none (absent : lookup k es = none) (a : α) :
    put k a es = es ++ [(k, a)] := by
  induction es with
  | nil => rfl
  | cons e es ih =>
    obtain ⟨l, b⟩ := e
    rw [lookup_cons] at absent
    split at absent
    · cases absent
    · next other => rw [put, if_neg other, ih absent, List.cons_append]

theorem has_eq_any_keys (k : κ) (es : Entries κ α) : has k es = (keys es).any (k == ·) := by
  induction es with
  | nil => rfl
  | cons e es ih =>
    obtain ⟨l, b⟩ := e
    rw [has] at ih
    rw [keys_cons, List.any_cons, has, lookup_cons, ← ih]
    cases k == l <;> rfl

/-- A key keeps its place if it has one, and comes last if it has none. -/
theorem keys_put (k : κ) (a : α) (es : Entries κ α) :
    keys (put k a es) = if has k es then keys es else keys es ++ [k] := by
  cases found : has k es with
  | false =>
    have absent : lookup k es = none := by simpa [has] using found
    simp [put_of_lookup_eq_none absent]
  | true =>
    simp only [if_true]
    induction es with
    | nil => cases found
    | cons e es ih =>
      obtain ⟨l, b⟩ := e
      rw [put]
      split
      · rfl
      · next other =>
        rw [has, lookup_cons, if_neg other] at found
        rw [keys_cons, ih found, keys_cons]

theorem lookup_append (k : κ) (es more : Entries κ α) :
    lookup k (es ++ more) = (lookup k es).or (lookup k more) := by
  induction es with
  | nil => rfl
  | cons e es ih =>
    obtain ⟨l, b⟩ := e
    rw [List.cons_append, lookup_cons, lookup_cons]
    split
    · rfl
    · exact ih

variable [LawfulBEq κ]

/-! ## Looking up -/

theorem lookup_eq_none_iff : lookup k es = none ↔ k ∉ keys es := by
  induction es with
  | nil => simp
  | cons e es ih =>
    obtain ⟨l, b⟩ := e
    by_cases hit : k = l
    · simp [lookup_cons, hit]
    · simp [lookup_cons, hit, ih]

theorem has_iff_mem_keys : has k es = true ↔ k ∈ keys es := by
  rw [has, Option.isSome_iff_ne_none, ne_eq, lookup_eq_none_iff, not_not]

theorem mem_of_lookup (found : lookup k es = some a) : (k, a) ∈ es := by
  induction es with
  | nil => cases found
  | cons e es ih =>
    obtain ⟨l, b⟩ := e
    rw [lookup_cons] at found
    split at found
    · next hit =>
      cases found
      rw [eq_of_beq hit]
      exact List.mem_cons_self
    · exact List.mem_cons_of_mem _ (ih found)

/-- Where keys differ every entry is found. -/
theorem lookup_of_mem (nodup : (keys es).Nodup) (member : (k, a) ∈ es) : lookup k es = some a := by
  induction es with
  | nil => cases member
  | cons e es ih =>
    obtain ⟨l, b⟩ := e
    obtain ⟨once, nodup⟩ := List.nodup_cons.1 nodup
    rcases List.mem_cons.1 member with same | later
    · cases same
      simp [lookup_cons]
    · have ne : k ≠ l := by
        rintro rfl
        exact once (List.mem_map.2 ⟨(k, a), later, rfl⟩)
      simpa [lookup_cons, ne] using ih nodup later

/-! ## Putting -/

theorem keys_put_of_mem (there : k ∈ keys es) (a : α) : keys (put k a es) = keys es := by
  rw [keys_put, if_pos (has_iff_mem_keys.2 there)]

theorem put_of_not_mem (new : k ∉ keys es) (a : α) : put k a es = es ++ [(k, a)] :=
  put_of_lookup_eq_none (lookup_eq_none_iff.2 new) a

theorem nodup_keys_put (nodup : (keys es).Nodup) (k : κ) (a : α) : (keys (put k a es)).Nodup := by
  by_cases there : k ∈ keys es
  · rw [keys_put_of_mem there]
    exact nodup
  · rw [put_of_not_mem there]
    exact nodup_keys_concat nodup there a

theorem mem_put {e : κ × α} (member : e ∈ put k a es) : e = (k, a) ∨ e ∈ es := by
  induction es with
  | nil => exact .inl (List.mem_singleton.1 member)
  | cons first es ih =>
    obtain ⟨l, b⟩ := first
    rw [put] at member
    split at member
    · next hit =>
      rw [eq_of_beq hit]
      exact (List.mem_cons.1 member).imp id (List.mem_cons_of_mem _)
    · rcases List.mem_cons.1 member with rfl | later
      · exact .inr List.mem_cons_self
      · exact (ih later).imp id (List.mem_cons_of_mem _)

/-- Under a key that is not among some changes there is what was there before them. -/
theorem lookup_merge_of_not_mem {changes : Entries κ α} (kept : k ∉ keys changes)
    (es : Entries κ α) : lookup k (merge es changes) = lookup k es := by
  induction changes generalizing es with
  | nil => rfl
  | cons e changes ih =>
    rw [keys_cons, List.mem_cons, not_or] at kept
    exact (ih kept.2 _).trans (lookup_put_of_ne kept.1 e.2 es)

theorem mem_keys_put {j : κ} : j ∈ keys (put k a es) ↔ j ∈ keys es ∨ j = k := by
  rw [keys_put]
  split
  · next there =>
    refine ⟨.inl, ?_⟩
    rintro (before | rfl)
    · exact before
    · exact has_iff_mem_keys.1 there
  · rw [List.mem_append, List.mem_singleton]

theorem mem_keys_merge {changes : Entries κ α} :
    k ∈ keys (merge es changes) ↔ k ∈ keys es ∨ k ∈ keys changes := by
  induction changes generalizing es with
  | nil => exact (or_iff_left List.not_mem_nil).symm
  | cons e changes ih =>
    rw [keys_cons, List.mem_cons, ← or_assoc, ← mem_keys_put (a := e.2)]
    exact ih

theorem nodup_keys_merge (nodup : (keys es).Nodup) (changes : Entries κ α) :
    (keys (merge es changes)).Nodup := by
  induction changes generalizing es with
  | nil => exact nodup
  | cons e changes ih => exact ih (nodup_keys_put nodup e.1 e.2)

/-- Under a key that was given the same every time there is just that. -/
theorem lookup_merge_map (f : κ → α) (ks : List κ) (es : Entries κ α) :
    lookup k (merge es (ks.map fun l => (l, f l))) =
      if k ∈ ks then some (f k) else lookup k es := by
  induction ks generalizing es with
  | nil => rfl
  | cons l ks ih =>
    refine (ih (put l (f l) es)).trans ?_
    by_cases hit : k = l
    · simp [hit]
    · simp [hit, lookup_put_of_ne hit]

/-! ## Choosing entries by their keys -/

theorem lookup_filter (p : κ → Bool) (k : κ) (es : Entries κ α) :
    lookup k (es.filter fun e => p e.1) = if p k then lookup k es else none := by
  induction es with
  | nil => simp
  | cons e es ih =>
    obtain ⟨l, b⟩ := e
    by_cases hit : k = l
    · subst hit
      cases chosen : p k <;> simp [lookup_cons, chosen, ih]
    · cases chosen : p l <;> simp [lookup_cons, chosen, hit, ih]

theorem lookup_remove_self (k : κ) (es : Entries κ α) : lookup k (remove k es) = none := by
  rw [remove, lookup_filter fun l => !(k == l)]
  simp

theorem lookup_remove_of_ne {j : κ} (ne : j ≠ k) (es : Entries κ α) :
    lookup j (remove k es) = lookup j es := by
  rw [remove, lookup_filter fun l => !(k == l)]
  simp [Ne.symm ne]

/-- To choose everything that is there changes nothing. -/
theorem filter_of_absent (p : κ → Bool) (absent : ∀ k, p k = false → lookup k es = none) :
    (es.filter fun e => p e.1) = es := by
  refine List.filter_eq_self.2 fun e member => ?_
  cases chosen : p e.1 with
  | true => rfl
  | false => exact absurd (List.mem_map_of_mem member) (lookup_eq_none_iff.1 (absent e.1 chosen))

theorem remove_of_absent (absent : lookup k es = none) : remove k es = es := by
  refine filter_of_absent (fun l => !(k == l)) fun l dropped => ?_
  have same : k = l := by simpa using dropped
  rw [← same, absent]

/-! ## Putting only where there is nothing -/

theorem lookup_putNew (j k : κ) (a : α) (es : Entries κ α) :
    lookup j (putNew k a es) = (lookup j es).or (if j == k then some a else none) := by
  unfold putNew
  split
  · next there =>
    obtain ⟨b, found⟩ := Option.isSome_iff_exists.1 there
    by_cases hit : j = k
    · rw [hit, found]
      rfl
    · simp [hit]
  · rw [lookup_append]
    rfl

/-- What is found after entries were put where there were none: what was there, and else what was
put first. -/
theorem lookup_foldl_putNew (k : κ) (es more : Entries κ α) :
    lookup k (more.foldl (fun acc e => putNew e.1 e.2 acc) es) =
      (lookup k es).or (lookup k more) := by
  induction more generalizing es with
  | nil => simp
  | cons e more ih =>
    obtain ⟨l, a⟩ := e
    rw [List.foldl_cons, ih, lookup_putNew, Option.or_assoc, lookup_cons]
    by_cases hit : k = l <;> simp [hit]

theorem foldl_putNew_of_mem (there : ∀ e ∈ more, e.1 ∈ keys es) :
    more.foldl (fun acc e => putNew e.1 e.2 acc) es = es := by
  induction more with
  | nil => rfl
  | cons e more ih =>
    have here : has e.1 es = true := has_iff_mem_keys.2 (there e List.mem_cons_self)
    rw [List.foldl_cons, putNew, if_pos here]
    exact ih fun e member => there e (List.mem_cons_of_mem _ member)

/-- Entries that are put only where there are none come after all that was there. -/
theorem foldl_putNew_eq_append (es more : Entries κ α) :
    ∃ rest, more.foldl (fun acc e => putNew e.1 e.2 acc) es = es ++ rest ∧
      (∀ e ∈ rest, e ∈ more) ∧ ((keys es).Nodup → (keys (es ++ rest)).Nodup) := by
  induction more generalizing es with
  | nil => exact ⟨[], by simp, by simp, by simp⟩
  | cons e more ih =>
    rw [List.foldl_cons, putNew]
    split
    · obtain ⟨rest, grown, from_more, nodup⟩ := ih es
      exact ⟨rest, grown, fun e member => List.mem_cons_of_mem _ (from_more e member), nodup⟩
    · next new =>
      obtain ⟨rest, grown, from_more, nodup⟩ := ih (es ++ [(e.1, e.2)])
      rw [has_iff_mem_keys] at new
      refine ⟨e :: rest, by rw [grown, List.append_assoc, List.singleton_append], ?_, ?_⟩
      · intro d member
        rcases List.mem_cons.1 member with rfl | later
        · exact List.mem_cons_self
        · exact List.mem_cons_of_mem _ (from_more d later)
      · intro before
        rw [List.append_cons]
        exact nodup (nodup_keys_concat before new e.2)

end EventCanvas.Entries
