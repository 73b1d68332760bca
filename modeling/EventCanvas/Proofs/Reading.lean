import EventCanvas.Proofs.Value.Json
import EventCanvas.Reading
import Mathlib.Data.List.Forall2

/-!
# What was read

A reading that succeeds says where in the payload each part of its outcome was found.

* `Reading.field_eq_ok_iff`, `Reading.of_fieldD_eq_ok`: fields come from entries of the payload.
* `Reading.itemsFrom_eq_ok_iff`: items come from the items of a row, one from each.
-/

namespace EventCanvas.Reading

variable {α β γ δ ε : Type} {read : Value → Reading α} {v owner : Value} {a : α} {name : String}

theorem andThen_eq_ok_iff {x : Reading α} {f : α → Reading β} {b : β} :
    x.andThen f = ok b ↔ ∃ a, x = ok a ∧ f a = ok b := by
  cases x <;> simp [andThen]

theorem map_seq_seq_eq_ok_iff {f : α → β → γ → δ} {x : Reading α} {y : Reading β} {z : Reading γ}
    {d : δ} :
    f <$> x <*> y <*> z = .ok d ↔
      ∃ a b c, x = .ok a ∧ y = .ok b ∧ z = .ok c ∧ f a b c = d := by
  rw [seq_eq_ok_iff]
  constructor
  · rintro ⟨_, c, pair, third, rfl⟩
    obtain ⟨_, b, one, second, rfl⟩ := seq_eq_ok_iff.1 pair
    obtain ⟨a, first, rfl⟩ := map_eq_ok_iff.1 one
    exact ⟨a, b, c, first, second, third, rfl⟩
  · rintro ⟨a, b, c, rfl, rfl, rfl, rfl⟩
    exact ⟨f a b, c, rfl, rfl, rfl⟩

theorem map_seq_seq_seq_eq_ok_iff {f : α → β → γ → δ → ε} {x : Reading α} {y : Reading β}
    {z : Reading γ} {u : Reading δ} {e : ε} :
    f <$> x <*> y <*> z <*> u = .ok e ↔
      ∃ a b c d, x = .ok a ∧ y = .ok b ∧ z = .ok c ∧ u = .ok d ∧ f a b c d = e := by
  rw [seq_eq_ok_iff]
  constructor
  · rintro ⟨_, d, three, fourth, rfl⟩
    obtain ⟨a, b, c, first, second, third, rfl⟩ := map_seq_seq_eq_ok_iff.1 three
    exact ⟨a, b, c, d, first, second, third, fourth, rfl⟩
  · rintro ⟨a, b, c, d, rfl, rfl, rfl, rfl, rfl⟩
    exact ⟨f a b c, d, rfl, rfl, rfl⟩

theorem table_eq_ok_iff {fs : Fields} : table v = ok fs ↔ v = .object fs := by
  cases v <;> simp [table, issue]

theorem oneOf_eq_ok_iff {choices : List (String × α)} :
    oneOf choices v = ok a ↔ ∃ s, v = .text s ∧ Entries.lookup s choices = some a := by
  cases v with
  | text s =>
    rw [oneOf]
    cases found : Entries.lookup s choices <;> simp [issue, found]
  | _ => simp [oneOf, issue]

theorem shaped_eq_ok_iff {shape : Shape} :
    shaped shape v read = ok a ↔ admits shape v = true ∧ read v = ok a := by
  unfold shaped
  cases admits shape v <;> simp [issue]

/-- What can be read as a shape and comes from a data format is a table. -/
theorem eq_object_of_admits {shape : Shape} (json : v.IsJson) (admitted : admits shape v = true) :
    ∃ fs, v = .object fs := by
  cases json with
  | object nodup values => exact ⟨_, rfl⟩
  | _ => cases admitted

/-! ## Fields -/

theorem field_eq_ok_iff :
    field owner name read = ok a ↔
      ∃ v, Entries.lookup name owner.fields = some v ∧ read v = ok a := by
  unfold field
  cases Entries.lookup name owner.fields with
  | none => simp [issue, under]
  | some v => simp [under_eq_ok_iff]

/-- A field is read from the entry under its name, whatever else there is. -/
theorem field_of_lookup_eq {other : Value} (done : field owner name read = ok a)
    (same : Entries.lookup name other.fields = Entries.lookup name owner.fields) :
    field other name read = ok a := by
  rw [field_eq_ok_iff] at done ⊢
  rwa [same]

theorem lookup_of_present?_eq_some {names : List String}
    (found : present? owner names = some (name, v)) :
    Entries.lookup name owner.fields = some v := by
  induction names with
  | nil => cases found
  | cons first names ih =>
    unfold present? at found
    split at found
    · next here =>
      cases found
      exact here
    · exact ih found

/-- A field with a default comes from an entry of the payload, or it is the default. -/
theorem of_fieldD_eq_ok {names : List String} {default : α}
    (done : fieldD owner names default read = ok a) :
    a = default ∨ ∃ name v, Entries.lookup name owner.fields = some v ∧ read v = ok a := by
  unfold fieldD at done
  split at done
  · next name v found =>
    exact .inr ⟨name, v, lookup_of_present?_eq_some found, under_eq_ok_iff.1 done⟩
  · cases done
    exact .inl rfl

/-- A field with a default and one name is what stands under the name, or the default. -/
theorem fieldD_eq_ok_iff {default : α} :
    fieldD owner [name] default read = ok a ↔
      Entries.lookup name owner.fields = none ∧ default = a ∨
        ∃ v, Entries.lookup name owner.fields = some v ∧ read v = ok a := by
  unfold fieldD present? present?
  cases Entries.lookup name owner.fields <;> simp [under_eq_ok_iff]

theorem fieldD_of_lookup_eq {other : Value} {default : α}
    (done : fieldD owner [name] default read = ok a)
    (same : Entries.lookup name other.fields = Entries.lookup name owner.fields) :
    fieldD other [name] default read = ok a := by
  rw [fieldD_eq_ok_iff] at done ⊢
  rwa [same]

theorem optional_eq_ok {x : Option α} (done : optional read v = ok x) :
    x = none ∨ ∃ b, x = some b ∧ read v = ok b := by
  unfold optional at done
  split at done
  · cases done
    exact .inl rfl
  · obtain ⟨b, found, rfl⟩ := map_eq_ok_iff.1 done
    exact .inr ⟨b, rfl, found⟩

/-! ## Items -/

/-- A row is read if each of its items is. -/
theorem itemsFrom_eq_ok_iff {i : Nat} {vs : List Value} {as : List α} :
    itemsFrom read i vs = ok as ↔ List.Forall₂ (fun v a => read v = ok a) vs as := by
  induction vs generalizing i as with
  | nil => simp [itemsFrom, eq_comm]
  | cons v vs ih =>
    rw [itemsFrom, seq_eq_ok_iff, List.forall₂_cons_left_iff]
    constructor
    · rintro ⟨cons, rest, first, others, rfl⟩
      obtain ⟨a, here, rfl⟩ := map_eq_ok_iff.1 first
      exact ⟨a, rest, under_eq_ok_iff.1 here, ih.1 others, rfl⟩
    · rintro ⟨a, rest, first, others, rfl⟩
      exact ⟨List.cons a, rest, map_eq_ok_iff.2 ⟨a, under_eq_ok_iff.2 first, rfl⟩,
        ih.2 others, rfl⟩

/-- What is read from a payload of a data format is read from values of that format. -/
theorem of_list_eq_ok (json : v.IsJson) {as : List α} (done : list read v = ok as) :
    ∀ a ∈ as, ∃ w : Value, w.IsJson ∧ read w = ok a := by
  cases json with
  | @list vs items =>
    have pairs := itemsFrom_eq_ok_iff.1 done
    clear done
    induction pairs with
    | nil => simp
    | @cons v a vs as first _ ih =>
      rw [List.forall_mem_cons]
      exact ⟨⟨v, items v List.mem_cons_self, first⟩,
        ih fun x member => items x (List.mem_cons_of_mem v member)⟩
  | _ => cases done

/-- The list of what items were written as is read as the list of what they are read as. -/
theorem list_map {f : β → Value} {g : β → α} {xs : List β}
    (reads : ∀ x ∈ xs, read (f x) = ok (g x)) :
    list read (.list (xs.map f)) = ok (xs.map g) := by
  refine itemsFrom_eq_ok_iff.2 ?_
  rw [List.forall₂_map_left_iff, List.forall₂_map_right_iff, List.forall₂_same]
  exact reads

end EventCanvas.Reading
