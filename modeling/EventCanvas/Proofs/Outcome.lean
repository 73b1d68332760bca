import EventCanvas.Fault
import Mathlib.Data.List.Forall2

/-!
# Outcomes

What an operation made of others gives: each of its parts gave something, and the next one went on
with that, or one of them gave a fault, and that is the outcome.
-/

namespace EventCanvas.Outcome

variable {α β : Type}

theorem bind_eq_ok_iff {x : Except Fault α} {next : α → Except Fault β} {b : β} :
    x >>= next = .ok b ↔ ∃ a, x = .ok a ∧ next a = .ok b := by
  cases x with
  | error f => exact ⟨nofun, fun ⟨_, given, _⟩ => nomatch given⟩
  | ok a => exact ⟨fun done => ⟨a, rfl, done⟩, fun ⟨_, given, done⟩ => Except.ok.inj given ▸ done⟩

theorem bind_eq_error_iff {x : Except Fault α} {next : α → Except Fault β} {e : Fault} :
    x >>= next = .error e ↔ x = .error e ∨ ∃ a, x = .ok a ∧ next a = .error e := by
  cases x with
  | error f =>
    refine ⟨fun failed => .inl (congrArg Except.error (Except.error.inj failed)), ?_⟩
    rintro (failed | ⟨_, given, _⟩)
    · exact congrArg Except.error (Except.error.inj failed)
    · cases given
  | ok a =>
    refine ⟨fun failed => .inr ⟨a, rfl, failed⟩, ?_⟩
    rintro (failed | ⟨_, given, failed⟩)
    · cases failed
    · exact Except.ok.inj given ▸ failed

theorem map_eq_ok_iff {x : Except Fault α} {f : α → β} {b : β} :
    x.map f = .ok b ↔ ∃ a, x = .ok a ∧ f a = b := by
  cases x with
  | error f => exact ⟨nofun, fun ⟨_, given, _⟩ => nomatch given⟩
  | ok a => simp [Except.map]

/-- What comes next is made in the state that the first step left, if that did not fail. -/
theorem run_bind {σ : Type} (x : ExceptT Fault (StateM σ) α)
    (next : α → ExceptT Fault (StateM σ) β) (s : σ) :
    (x >>= next).run s =
      match x.run s with
      | (.ok a, t) => (next a).run t
      | (.error f, t) => (.error f, t) := by
  show StateT.bind x (ExceptT.bindCont next) s = _
  unfold StateT.bind ExceptT.run
  rcases x s with ⟨_ | _, _⟩ <;> rfl

theorem run_bind_eq_ok_iff {σ : Type} {x : ExceptT Fault (StateM σ) α}
    {next : α → ExceptT Fault (StateM σ) β} {s t : σ} {b : β} :
    (x >>= next).run s = (.ok b, t) ↔
      ∃ a u, x.run s = (.ok a, u) ∧ (next a).run u = (.ok b, t) := by
  rw [run_bind]
  rcases x.run s with ⟨f | a, u⟩
  · exact ⟨nofun, fun ⟨_, _, given, _⟩ => nomatch given⟩
  · refine ⟨fun done => ⟨a, u, rfl, done⟩, fun ⟨_, _, given, done⟩ => ?_⟩
    cases given
    exact done

/-- What was found out already changes nothing. -/
theorem run_ofExcept {σ : Type} (x : Except Fault α) (s : σ) :
    (ofExcept x : ExceptT Fault (StateM σ) α).run s = (x, s) := by
  cases x <;> rfl

/-- Two outcomes are the same fault, or what they give is related. -/
inductive Related (R : α → β → Prop) : Except Fault α → Except Fault β → Prop
  | ok {a : α} {b : β} : R a b → Related R (.ok a) (.ok b)
  | error (f : Fault) : Related R (.error f) (.error f)

theorem Related.refl {R : α → α → Prop} (related : ∀ a, R a a) (x : Except Fault α) :
    Related R x x := by
  cases x with
  | error f => exact .error f
  | ok a => exact .ok (related a)

/-! ## Rows -/

variable {f : α → Except Fault β} {xs : List α}

theorem mapM_eq_ok_iff {ys : List β} :
    xs.mapM f = .ok ys ↔ List.Forall₂ (fun x y => f x = .ok y) xs ys := by
  induction xs generalizing ys with
  | nil =>
    rw [List.mapM_nil, List.forall₂_nil_left_iff]
    exact ⟨fun done => (Except.ok.inj done).symm, fun none => none ▸ rfl⟩
  | cons x xs ih =>
    rw [List.mapM_cons, bind_eq_ok_iff, List.forall₂_cons_left_iff]
    constructor
    · rintro ⟨y, here, rest⟩
      obtain ⟨zs, others, whole⟩ := bind_eq_ok_iff.1 rest
      exact ⟨y, zs, here, ih.1 others, (Except.ok.inj whole).symm⟩
    · rintro ⟨y, zs, here, others, rfl⟩
      exact ⟨y, here, bind_eq_ok_iff.2 ⟨zs, ih.2 others, rfl⟩⟩

/-- A row whose items all give something gives what they give. -/
theorem mapM_eq_ok_map {g : α → β} (each : ∀ x ∈ xs, f x = .ok (g x)) :
    xs.mapM f = .ok (xs.map g) := by
  rw [mapM_eq_ok_iff, List.forall₂_map_right_iff, List.forall₂_same]
  exact each

/-- A row in which some item gives a fault, and no item gives another one, gives that fault. -/
theorem mapM_eq_error {e : Fault} (only : ∀ x ∈ xs, (∃ y, f x = .ok y) ∨ f x = .error e)
    (failed : ∃ x ∈ xs, f x = .error e) : xs.mapM f = .error e := by
  induction xs with
  | nil =>
    obtain ⟨x, none, -⟩ := failed
    cases none
  | cons x xs ih =>
    rw [List.mapM_cons, bind_eq_error_iff]
    rcases only x List.mem_cons_self with ⟨y, here⟩ | here
    · have later : ∃ z ∈ xs, f z = .error e := by
        obtain ⟨z, member, failed⟩ := failed
        rcases List.mem_cons.1 member with rfl | inside
        · rw [here] at failed
          cases failed
        · exact ⟨z, inside, failed⟩
      have others := ih (fun z inside => only z (List.mem_cons_of_mem x inside)) later
      exact .inr ⟨y, here, bind_eq_error_iff.2 (.inl others)⟩
    · exact .inl here

end EventCanvas.Outcome
