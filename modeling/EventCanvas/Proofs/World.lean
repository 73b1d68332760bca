import EventCanvas.Engine.World
import Mathlib.Tactic.ByContra

/-!
# Engines of a world

What changing, disposing and recording do to the engines of a world.
-/

namespace EventCanvas

theorem Engine.dispose_of_isActive {e : Engine} (active : e.isActive = true) :
    e.dispose = { e with context := .empty, lifecycle := .disposed, tracer := .silent } := by
  rcases e with ⟨_, _, _, _ | _, _, _⟩
  · rfl
  · cases active

namespace World

variable {σ : Type}

/-- Only an engine that was created can be active. -/
theorem lt_length_of_isActive {w : World σ} {id : Nat} (active : (w.engine id).isActive = true) :
    id < w.engines.length := by
  by_contra outside
  rw [World.engine, List.getElem?_eq_none (by omega)] at active
  cases active

/-! ## Changing an engine -/

theorem engine_modifyEngine_of_ne (w : World σ) {id other : Nat} (f : Engine → Engine)
    (ne : id ≠ other) : (w.modifyEngine id f).engine other = w.engine other := by
  simp [World.engine, modifyEngine, List.getElem?_modify_ne f w.engines ne]

theorem engine_modifyEngine_self {w : World σ} {id : Nat} (f : Engine → Engine)
    (inside : id < w.engines.length) : (w.modifyEngine id f).engine id = f (w.engine id) := by
  simp [World.engine, modifyEngine, List.getElem?_eq_getElem inside]

/-- A change of an engine is a change of that one, if there is such an engine, and of no other. -/
theorem engine_modifyEngine_eq_ite (w : World σ) (id other : Nat) (f : Engine → Engine) :
    (w.modifyEngine id f).engine other =
      if id = other ∧ other < w.engines.length then f (w.engine other) else w.engine other := by
  split
  · next hit =>
    obtain ⟨rfl, inside⟩ := hit
    exact engine_modifyEngine_self f inside
  · next miss =>
    by_cases hit : id = other
    · have missing : w.engines[other]? = none :=
        List.getElem?_eq_none (Nat.le_of_not_lt fun inside => miss ⟨hit, inside⟩)
      simp [World.engine, modifyEngine, List.getElem?_modify, missing]
    · exact engine_modifyEngine_of_ne w f hit

/-- A change of an engine leaves an engine as it is or is a change of that one. -/
theorem engine_modifyEngine_eq_or (w : World σ) (id other : Nat) (f : Engine → Engine) :
    (w.modifyEngine id f).engine other = w.engine other ∨
      id = other ∧ (w.modifyEngine id f).engine other = f (w.engine other) := by
  rw [engine_modifyEngine_eq_ite]
  split
  · next hit => exact .inr ⟨hit.1, rfl⟩
  · exact .inl rfl

/-- A change that an absent engine does not notice is the same for every engine. -/
theorem engine_modifyEngine (w : World σ) (id : Nat) {f : Engine → Engine}
    (fixes : f .absent = .absent) : (w.modifyEngine id f).engine id = f (w.engine id) := by
  rw [engine_modifyEngine_eq_ite]
  split
  · rfl
  · next miss =>
    have missing : w.engines[id]? = none :=
      List.getElem?_eq_none (Nat.le_of_not_lt fun inside => miss ⟨rfl, inside⟩)
    rw [World.engine, missing]
    exact fixes.symm

/-- Two changes that come to the same for an engine are the same change of the world. -/
theorem modifyEngine_congr (w : World σ) (id : Nat) {f g : Engine → Engine}
    (same : f (w.engine id) = g (w.engine id)) : w.modifyEngine id f = w.modifyEngine id g := by
  have engines : w.engines.modify id f = w.engines.modify id g := by
    refine List.ext_getElem? fun i => ?_
    by_cases hit : id = i
    · subst hit
      unfold World.engine at same
      cases found : w.engines[id]? with
      | none => simp [found]
      | some e =>
        rw [found] at same
        simpa [found] using same
    · rw [List.getElem?_modify_ne f _ hit, List.getElem?_modify_ne g _ hit]
  simp only [modifyEngine, engines]

/-! ## Recording -/

@[simp] theorem engine_record (w : World σ) (e : Event) (id : Nat) :
    (w.record e).engine id = w.engine id := rfl

@[simp] theorem history_record (w : World σ) (e : Event) :
    (w.record e).history = w.history ++ [e] := rfl

@[simp] theorem history_modifyEngine (w : World σ) (id : Nat) (f : Engine → Engine) :
    (w.modifyEngine id f).history = w.history := rfl

/-! ## Disposing -/

theorem dispose_of_isActive {w : World σ} {id : Nat} (active : (w.engine id).isActive = true) :
    w.dispose id = (w.modifyEngine id Engine.dispose).record (.disposed id) := if_pos active

theorem dispose_of_not_isActive {w : World σ} {id : Nat}
    (inactive : (w.engine id).isActive = false) : w.dispose id = w :=
  if_neg (by simp [inactive])

/-- What holds of a world holds after a disposal too, if an active engine can end with it. -/
theorem dispose_of_holds {I : World σ → Prop} {w : World σ} (holds : I w) (id : Nat)
    (ends : (w.engine id).isActive = true →
      I ((w.modifyEngine id Engine.dispose).record (.disposed id))) : I (w.dispose id) := by
  cases active : (w.engine id).isActive with
  | true =>
    rw [dispose_of_isActive active]
    exact ends active
  | false => rwa [dispose_of_not_isActive active]

theorem engine_dispose (w : World σ) (id : Nat) :
    (w.dispose id).engine id = (w.engine id).dispose := by
  cases active : (w.engine id).isActive with
  | true =>
    rw [dispose_of_isActive active, engine_record]
    exact engine_modifyEngine w id rfl
  | false =>
    rw [dispose_of_not_isActive active]
    rcases h : w.engine id with ⟨_, _, _, _ | _, _, _⟩
    · rw [h] at active
      cases active
    · rfl

theorem engine_dispose_of_ne (w : World σ) {id other : Nat} (ne : id ≠ other) :
    (w.dispose id).engine other = w.engine other := by
  cases active : (w.engine id).isActive with
  | true =>
    rw [dispose_of_isActive active, engine_record]
    exact engine_modifyEngine_of_ne w _ ne
  | false => rw [dispose_of_not_isActive active]

end World

end EventCanvas
