import EventCanvas.Proofs.Act
import EventCanvas.Proofs.World
import EventCanvas.Slot

/-!
# What the slot comes down to

Operations on the slot create engines, dispose them and empty the slot, and log
what they do.  What maintains all of this is maintained by every operation
(`Slot.maintains_perform`).  In two worlds where all of this is the same, so is every
operation (`Slot.alongside_perform`).
-/

namespace EventCanvas.Slot

open Act (Alongside Maintains)

variable {σ : Type} {I : World σ → Prop}

/-- The world after an engine was created in it. -/
def created (w : World σ) (context : Context Callback) : World σ :=
  { w with
    engines := w.engines ++ [Engine.new context w.slot.settings w.slot.name]
    slot := { w.slot with engine := some w.engines.length }
    history := w.history ++ [.created w.engines.length] }

theorem run_create (context : Context Callback) (w : World σ) :
    (create context : Act σ Nat).run w = (.ok w.engines.length, created w context) := rfl

theorem engine_created_of_ne (w : World σ) (context : Context Callback) {id : Nat}
    (ne : id ≠ w.engines.length) : (created w context).engine id = w.engine id := by
  rcases Nat.lt_or_gt_of_ne ne with inside | outside
  · simp [World.engine, created, List.getElem?_append_left inside]
  · have missing : (created w context).engines[id]? = none :=
      List.getElem?_eq_none (by simp [created]; omega)
    rw [World.engine, World.engine, missing, List.getElem?_eq_none (Nat.le_of_lt outside)]

theorem engine_created_self (w : World σ) (context : Context Callback) :
    (created w context).engine w.engines.length =
      Engine.new context w.slot.settings w.slot.name := by
  simp [World.engine, created]

theorem engine_created_eq_ite (w : World σ) (context : Context Callback) (id : Nat) :
    (created w context).engine id =
      if id = w.engines.length then Engine.new context w.slot.settings w.slot.name
      else w.engine id := by
  split
  · next new =>
    subst new
    exact engine_created_self w context
  · next old => exact engine_created_of_ne w context old

/-- The world after the slot was emptied. -/
def emptied (w : World σ) : World σ := { w with slot := { w.slot with engine := none } }

/-! ## Side by side -/

/-- What an operation on the slot comes down to is the same in two worlds that are related, which
stay so. -/
structure Shares (T : World σ → World σ → Prop) (op : SlotOp Callback) : Prop where
  slot : ∀ w v, T w v → w.slot = v.slot
  active : ∀ w v, T w v → ∀ id, (w.engine id).isActive = (v.engine id).isActive
  log : ∀ r, Alongside T (Act.log r) (Act.log r)
  dispose : ∀ id, Alongside T (Act.dispose id) (Act.dispose id)
  empty : ∀ w v, T w v → T (emptied w) (emptied v)
  create : ∀ c, op = .install c ∨ op = .mount c → Alongside T (create c) (create c)

/-- Every operation on the slot does the same in two worlds if its parts do. -/
theorem alongside_perform {T : World σ → World σ → Prop} {op : SlotOp Callback}
    (shares : Shares T op) : Alongside T (perform op) (perform op) := by
  -- what is looked at is the slot, and whether the engine in it is active
  have named {α : Type} (k : Slot → Act σ α) (next : ∀ s, Alongside T (k s) (k s)) :
      Alongside T (do k (← get).slot) (do k (← get).slot) :=
    .get_bind fun w v related => shares.slot w v related ▸ next _
  have live : Alongside T (live : Act σ (Option Nat)) Slot.live := by
    refine .get_bind fun w v related => ?_
    rw [shares.slot w v related, funext (shares.active w v related)]
    exact .pure _
  have reset : Alongside T (reset : Act σ Unit) Slot.reset := by
    refine .get_bind fun w v related => ?_
    rw [shares.slot w v related]
    cases v.slot.engine with
    | none => exact .pure _
    | some id =>
      exact .bind (shares.dispose id) fun _ => .bind (.modify shares.empty) fun _ =>
        named (fun s => Act.log (logLine s.name _)) fun _ => shares.log _
  have replace : Alongside T (replace : Act σ Unit) Slot.replace := by
    refine .bind live fun found => ?_
    cases found with
    | none => exact .pure _
    | some id =>
      exact named (fun s => do Act.log (logLine s.name _); Act.dispose id) fun _ =>
        .bind (shares.log _) fun _ => shares.dispose id
  have install (c : Context Callback) (creates : op = .install c ∨ op = .mount c) :
      Alongside T (install c : Act σ Nat) (Slot.install c) :=
    .bind replace fun _ => .bind (shares.create c creates) fun _ =>
      named (fun s => do Act.log (logLine s.name _); return _) fun _ =>
        .bind (shares.log _) fun _ => .pure _
  cases op with
  | install c => exact .bind (install c (.inl rfl)) fun _ => .pure _
  | mount c =>
    refine .bind ?_ fun _ => .pure _
    unfold mount
    split
    · exact .bind reset fun _ => .pure _
    · exact .bind (install c (.inr rfl)) fun _ => .pure _
  | get => exact .bind live fun _ => .pure _
  | reset => exact .bind reset fun _ => .pure _
  | leave id =>
    refine .bind (named (fun s => if s.engine = some id then Slot.reset else Act.dispose id)
      fun s => ?_) fun _ => .pure _
    split
    · exact reset
    · exact shares.dispose id

/-! ## Maintaining -/

/-- Every operation on the slot maintains what its parts do. -/
theorem maintains_perform (log : ∀ r, Maintains I (Act.log r))
    (dispose : ∀ id, Maintains I (Act.dispose id)) (empty : ∀ w, I w → I (emptied w))
    (op : SlotOp Callback)
    (create : ∀ c, op = .install c ∨ op = .mount c → Maintains I (create c)) :
    Maintains I (perform op) := by
  have shares : Shares (fun w v => w = v ∧ I w) op :=
    { slot := fun _ _ related => congrArg World.slot related.1
      active := fun _ _ related id => by rw [related.1]
      log := fun r => .of_maintains (log r)
      dispose := fun id => .of_maintains (dispose id)
      empty := by
        rintro w _ ⟨rfl, holds⟩
        exact ⟨rfl, empty w holds⟩
      create := fun c creates => .of_maintains (create c creates) }
  exact (alongside_perform shares).maintains

end EventCanvas.Slot
