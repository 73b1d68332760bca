import EventCanvas.Engine.World
import EventCanvas.Proofs.Outcome
import Mathlib.Tactic.Choose

/-!
# Steps and what they maintain

A step takes a world to an outcome and a world.  The equations `run_*` say how
the steps that everything is built from do so.

* `Act.Maintains I x`: the step `x` takes every world in which `I` holds to one
  in which `I` holds, also when it fails.  A fault does not undo anything, so no
  rule about it needs the outcome of a step.
* `Act.Succeeds x`: `x` ends without a fault in every world.
* `Act.ReadsOnly id x`: `x` leaves the world alone, and its outcome depends on
  the engine `id` only.
* `Act.Alongside T x y`: made in worlds that `T` relates, `x` and `y` end in the
  same way and in worlds that `T` relates.
-/

namespace EventCanvas.Act

variable {σ α β : Type}

/-! ## Running steps -/

theorem run_pure (a : α) (w : World σ) : (pure a : Act σ α).run w = (.ok a, w) := rfl

theorem run_bind (x : Act σ α) (k : α → Act σ β) (w : World σ) :
    (x >>= k).run w =
      match x.run w with
      | (.ok a, v) => (k a).run v
      | (.error f, v) => (.error f, v) := by
  rw [Outcome.run_bind]
  rcases x.run w with ⟨_ | _, _⟩ <;> rfl

theorem run_bind_of_error {x : Act σ α} {w v : World σ} {f : Fault}
    (fails : x.run w = (.error f, v)) (k : α → Act σ β) : (x >>= k).run w = (.error f, v) := by
  rw [run_bind, fails]

theorem run_bind_of_ok {x : Act σ α} {w v : World σ} {a : α} (ends : x.run w = (.ok a, v))
    (k : α → Act σ β) : (x >>= k).run w = (k a).run v := by
  rw [run_bind, ends]

theorem run_tryCatch (x : Act σ α) (handle : Fault → Act σ α) (w : World σ) :
    (tryCatch x handle).run w =
      match x.run w with
      | (.ok a, v) => (.ok a, v)
      | (.error f, v) => (handle f).run v := by
  simp only [tryCatch, tryCatchThe, MonadExceptOf.tryCatch, ExceptT.tryCatch, ExceptT.mk,
    ExceptT.run, bind, StateT.bind]
  rcases x w with ⟨_ | _, _⟩ <;> rfl

theorem run_get (w : World σ) : (get : Act σ (World σ)).run w = (.ok w, w) := rfl

theorem run_engine (id : Nat) (w : World σ) :
    (engine id : Act σ Engine).run w = (.ok (w.engine id), w) := rfl

theorem run_record (e : Event) (w : World σ) :
    (record e : Act σ Unit).run w = (.ok (), w.record e) := rfl

theorem run_log (r : LogRecord) (w : World σ) :
    (log r : Act σ Unit).run w = (.ok (), { w with log := w.log ++ [r] }) := rfl

theorem run_dispose (id : Nat) (w : World σ) :
    (dispose id : Act σ Unit).run w = (.ok (), w.dispose id) := rfl

theorem run_ofExcept (r : Except Fault α) (w : World σ) :
    (ofExcept r : Act σ α).run w = (r, w) := by
  cases r <;> rfl

/-- The answer to a call that ended in some way. -/
def replyTo : Except Fault Reply → Reply
  | .ok reply => reply
  | .error f => .failed f

/-- A call never fails: it is in the history, then whatever it did, then its answer. -/
theorem run_exchange (op : HostOp) (x : Act σ Reply) (w : World σ) :
    (exchange op x).run w =
      (.ok (replyTo (x.run (w.record (.called op))).1),
        (x.run (w.record (.called op))).2.record
          (.answered op (replyTo (x.run (w.record (.called op))).1))) := by
  unfold exchange
  rw [run_bind_of_ok (run_record _ w), run_bind, run_tryCatch]
  rcases x.run (w.record (.called op)) with ⟨_ | _, _⟩ <;> rfl

theorem run_attempt (x : Act σ α) (w : World σ) :
    (attempt x).run w = (.ok (x.run w).1, (x.run w).2) := by
  unfold attempt
  rw [run_tryCatch, run_bind]
  rcases x.run w with ⟨_ | _, _⟩ <;> rfl

/-! ## Maintaining -/

/-- A step maintains what holds of worlds if it holds after the step whenever it held before. -/
def Maintains (I : World σ → Prop) (x : Act σ α) : Prop := ∀ w, I w → I (x.run w).2

namespace Maintains

variable {I : World σ → Prop}

theorem pure (a : α) : Maintains I (Pure.pure a : Act σ α) := fun _ holds => holds

theorem throw (f : Fault) : Maintains I (throw f : Act σ α) := fun _ holds => holds

theorem bind {x : Act σ α} {k : α → Act σ β} (first : Maintains I x)
    (next : ∀ a, Maintains I (k a)) : Maintains I (x >>= k) := by
  intro w holds
  have between := first w holds
  rw [run_bind]
  rcases run : x.run w with ⟨f | a, v⟩
  · rw [run] at between
    exact between
  · rw [run] at between
    exact next a v between

theorem tryCatch {x : Act σ α} {handle : Fault → Act σ α} (body : Maintains I x)
    (handler : ∀ f, Maintains I (handle f)) : Maintains I (tryCatch x handle) := by
  intro w holds
  have between := body w holds
  rw [run_tryCatch]
  rcases run : x.run w with ⟨f | a, v⟩
  · rw [run] at between
    exact handler f v between
  · rw [run] at between
    exact between

theorem attempt {x : Act σ α} (body : Maintains I x) : Maintains I (attempt x) :=
  tryCatch (bind body fun _ => pure _) fun _ => pure _

theorem ofExcept (r : Except Fault α) : Maintains I (ofExcept r : Act σ α) := by
  cases r with
  | ok a => exact pure a
  | error f => exact throw f

/-- What follows a result that is given only has to maintain what the result is known to lead to. -/
theorem ofExcept_bind {r : Except Fault α} {k : α → Act σ β}
    (next : ∀ a, r = .ok a → Maintains I (k a)) :
    Maintains I (Act.ofExcept r >>= k : Act σ β) := by
  cases r with
  | error f => exact fun _ holds => holds
  | ok a => exact next a rfl

/-- A call maintains what is not about the history if what it does maintains it. -/
theorem exchange {x : Act σ Reply} (records : ∀ w e, I w → I (w.record e)) (op : HostOp)
    (body : Maintains I x) : Maintains I (Act.exchange op x) := by
  intro w holds
  rw [run_exchange]
  exact records _ _ (body _ (records _ _ holds))

end Maintains

/-! ## Succeeding -/

/-- A step that ends without a fault, in whatever world it is made. -/
def Succeeds (x : Act σ α) : Prop := ∀ w, ∃ a v, x.run w = (.ok a, v)

namespace Succeeds

theorem pure (a : α) : Succeeds (Pure.pure a : Act σ α) := fun w => ⟨a, w, rfl⟩

theorem engine (id : Nat) : Succeeds (engine id : Act σ Engine) := fun w => ⟨w.engine id, w, rfl⟩

theorem record (e : Event) : Succeeds (record e : Act σ Unit) := fun w => ⟨(), w.record e, rfl⟩

theorem log (r : LogRecord) : Succeeds (log r : Act σ Unit) := fun w => ⟨(), _, run_log r w⟩

theorem bind {x : Act σ α} {k : α → Act σ β} (first : Succeeds x)
    (next : ∀ a, Succeeds (k a)) : Succeeds (x >>= k) := by
  intro w
  obtain ⟨a, u, run⟩ := first w
  rw [run_bind_of_ok run]
  exact next a u

/-- What catches every fault with a step that succeeds. -/
theorem tryCatch (x : Act σ α) {handle : Fault → Act σ α} (handler : ∀ f, Succeeds (handle f)) :
    Succeeds (tryCatch x handle) := by
  intro w
  rw [run_tryCatch]
  rcases x.run w with ⟨f | a, v⟩
  · exact handler f v
  · exact ⟨a, v, rfl⟩

/-- A call succeeds whatever it does: a fault is its answer. -/
theorem exchange (op : HostOp) (x : Act σ Reply) : Succeeds (exchange op x) :=
  fun w => ⟨_, _, run_exchange op x w⟩

/-- What only has to succeed has no result to name. -/
theorem run {x : Act σ Unit} (succeeds : Succeeds x) (w : World σ) :
    ∃ v, x.run w = (.ok (), v) := by
  obtain ⟨⟨⟩, v, run⟩ := succeeds w
  exact ⟨v, run⟩

end Succeeds

/-! ## Reading an engine -/

/-- A step that leaves the world alone and whose outcome depends on one engine only. -/
def ReadsOnly (id : Nat) (x : Act σ α) : Prop :=
  ∃ outcome : Engine → Except Fault α, ∀ w, x.run w = (outcome (w.engine id), w)

namespace ReadsOnly

variable {id : Nat}

theorem pure (a : α) : ReadsOnly id (Pure.pure a : Act σ α) := ⟨fun _ => .ok a, fun _ => rfl⟩

theorem throw (f : Fault) : ReadsOnly id (throw f : Act σ α) := ⟨fun _ => .error f, fun _ => rfl⟩

theorem engine : ReadsOnly id (engine id : Act σ Engine) := ⟨.ok, fun _ => rfl⟩

theorem ofExcept (r : Except Fault α) : ReadsOnly id (ofExcept r : Act σ α) := by
  cases r with
  | ok a => exact pure a
  | error f => exact throw f

theorem bind {x : Act σ α} {k : α → Act σ β} (first : ReadsOnly id x)
    (next : ∀ a, ReadsOnly id (k a)) : ReadsOnly id (x >>= k) := by
  obtain ⟨outcome, run⟩ := first
  choose outcomes runs using next
  refine ⟨fun e => outcome e >>= fun a => outcomes a e, fun w => ?_⟩
  rw [run_bind, run]
  show _ = (outcome (w.engine id) >>= fun a => outcomes a (w.engine id), w)
  cases outcome (w.engine id) with
  | error f => rfl
  | ok a => exact runs a w

theorem maintains {I : World σ → Prop} {x : Act σ α} (reads : ReadsOnly id x) :
    Maintains I x := by
  obtain ⟨_, run⟩ := reads
  intro w holds
  rw [run]
  exact holds

end ReadsOnly

/-! ## Side by side -/

/-- Two steps that are made in worlds which are related end in the same way, faults included, and in
worlds which are related. -/
def Alongside (T : World σ → World σ → Prop) (x y : Act σ α) : Prop :=
  ∀ w v, T w v → (x.run w).1 = (y.run v).1 ∧ T (x.run w).2 (y.run v).2

namespace Alongside

variable {T : World σ → World σ → Prop}

theorem pure (a : α) : Alongside T (Pure.pure a : Act σ α) (Pure.pure a) :=
  fun _ _ related => ⟨rfl, related⟩

theorem throw (f : Fault) : Alongside T (throw f : Act σ α) (throw f) :=
  fun _ _ related => ⟨rfl, related⟩

theorem bind {x y : Act σ α} {k l : α → Act σ β} (first : Alongside T x y)
    (next : ∀ a, Alongside T (k a) (l a)) : Alongside T (x >>= k) (y >>= l) := by
  intro w v related
  obtain ⟨same, between⟩ := first w v related
  rw [run_bind, run_bind]
  rcases left : x.run w with ⟨f | a, w'⟩ <;> rcases right : y.run v with ⟨g | b, v'⟩ <;>
    rw [left, right] at same between <;> cases same
  · exact ⟨rfl, between⟩
  · exact next a w' v' between

theorem tryCatch {x y : Act σ α} {handle handle' : Fault → Act σ α} (body : Alongside T x y)
    (handler : ∀ f, Alongside T (handle f) (handle' f)) :
    Alongside T (tryCatch x handle) (tryCatch y handle') := by
  intro w v related
  obtain ⟨same, between⟩ := body w v related
  rw [run_tryCatch, run_tryCatch]
  rcases left : x.run w with ⟨f | a, w'⟩ <;> rcases right : y.run v with ⟨g | b, v'⟩ <;>
    rw [left, right] at same between <;> cases same
  · exact handler f w' v' between
  · exact ⟨rfl, between⟩

theorem attempt {x y : Act σ α} (body : Alongside T x y) :
    Alongside T (attempt x) (attempt y) :=
  tryCatch (bind body fun _ => pure _) fun _ => pure _

theorem modify {f g : World σ → World σ} (change : ∀ w v, T w v → T (f w) (g v)) :
    Alongside T (modify f : Act σ Unit) (modify g) :=
  fun w v related => ⟨rfl, change w v related⟩

/-- To go on with what a related world is. -/
theorem get_bind {k l : World σ → Act σ β}
    (next : ∀ w v, T w v → Alongside T (k w) (l v)) :
    Alongside T (get >>= k : Act σ β) (get >>= l) :=
  fun w v related => next w v related w v related

/-- To maintain something is to do the same where it holds. -/
theorem of_maintains {I : World σ → Prop} {x : Act σ α} (kept : Maintains I x) :
    Alongside (fun w v => w = v ∧ I w) x x := by
  rintro w _ ⟨rfl, holds⟩
  exact ⟨rfl, rfl, kept w holds⟩

theorem maintains {I : World σ → Prop} {x : Act σ α}
    (same : Alongside (fun w v => w = v ∧ I w) x x) : Maintains I x :=
  fun w holds => (same w w ⟨rfl, holds⟩).2.2

theorem of_eq {x y : Act σ α} (same : x = y) : Alongside Eq x y := by
  rintro w _ rfl
  rw [same]
  exact ⟨rfl, rfl⟩

/-- Steps that do the same in every world are the same. -/
theorem eq {x y : Act σ α} (same : Alongside Eq x y) : x = y :=
  funext fun w => Prod.ext (same w w rfl).1 (same w w rfl).2

/-- A call is in the history with its answer, whatever it does. -/
theorem exchange {x y : Act σ Reply} (op : HostOp) (body : Alongside T x y)
    (record : ∀ e, Alongside T (Act.record e) (Act.record e)) :
    Alongside T (exchange op x) (exchange op y) :=
  bind (record _) fun _ => bind (tryCatch body fun _ => pure _) fun _ =>
    bind (record _) fun _ => pure _

end Alongside

end EventCanvas.Act
