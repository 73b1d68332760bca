import EventCanvas.Proofs.Engine.Execution

/-!
# The span in progress comes back

Triggering a node makes another span the one in progress, and the one from before
is set again at the end.

* `Holds id span many w`: the engine has the given span in progress.
* `Host.span_perform`: whatever an engine is asked, it has the span in progress
  afterwards that it had before.

What happens inside a dispatch holds the span of that dispatch, so the invariant
is a family, and callbacks are assumed to maintain all of its members.
-/

namespace EventCanvas

open Act (Maintains)

variable {σ : Type} {id : Nat}

/-- An engine has a span in progress or none, and there are at least so many engines. -/
structure Holds (id : Nat) (span : Option Span) (many : Nat) (w : World σ) : Prop where
  current : (w.engine id).span = span
  many : many ≤ w.engines.length

namespace Holds

variable {span : Option Span} {many : Nat} {w v : World σ}

theorem of_eq (holds : Holds id span many w) (engines : v.engines = w.engines) :
    Holds id span many v where
  current := by
    have current := holds.current
    simp only [World.engine, engines] at current ⊢
    exact current
  many := by
    rw [engines]
    exact holds.many

theorem modifyEngine (holds : Holds id span many w) (i : Nat) {f : Engine → Engine}
    (kept : i = id → (f (w.engine id)).span = (w.engine id).span) :
    Holds id span many (w.modifyEngine i f) where
  current := by
    rcases w.engine_modifyEngine_eq_or i id f with same | ⟨hit, same⟩
    · rw [same, holds.current]
    · rw [same, kept hit, holds.current]
  many := by
    simpa [World.modifyEngine] using holds.many

theorem dispose (holds : Holds id span many w) (i : Nat) : Holds id span many (w.dispose i) := by
  refine World.dispose_of_holds holds i fun active => ?_
  refine (holds.modifyEngine i fun same => ?_).of_eq rfl
  subst same
  rw [Engine.dispose_of_isActive active]

theorem created (holds : Holds id span many w) (context : Context Callback) :
    Holds id span many (Slot.created w context) where
  current := by
    by_cases new : id = w.engines.length
    · subst new
      rw [Slot.engine_created_self, ← holds.current, World.engine,
        List.getElem?_eq_none (Nat.le_refl _)]
      rfl
    · rw [Slot.engine_created_of_ne w context new, holds.current]
  many := by
    refine Nat.le_trans holds.many ?_
    simp [Slot.created]

theorem leaves (id : Nat) (span : Option Span) (many : Nat) :
    Host.Leaves (Holds id span many : World σ → Prop) where
  write _ _ holds := holds.of_eq rfl
  log _ _ holds := holds.of_eq rfl
  note _ _ holds := holds.of_eq rfl

section

variable {notify : Notify σ} (span : Option Span) (many : Nat)
  (callbacks : ∀ (i : Option Span × Nat) callback notice,
    Maintains (Holds id i.1 i.2) (notify callback notice))

include callbacks

theorem maintains_tell (i : Nat) (notice : Notice) :
    Maintains (Holds id span many) (Engine.tell notify i notice) :=
  Engine.maintains_tell notice (fun _ _ holds _ => holds.of_eq rfl)
    fun callback => callbacks (span, many) callback notice

open Engine in
theorem reports (i : Nat) : Reports (Holds id span many) notify i where
  log _ _ holds := holds.of_eq rfl
  traced _ _ holds := holds.of_eq rfl
  report _ := maintains_tell span many callbacks i _

theorem maintains_commit (i : Nat) (x : Engine.Effect) :
    Maintains (Holds id span many) (Engine.commit notify i x) :=
  Engine.maintains_commit x fun _ holds _ _ =>
    maintains_tell span many callbacks i _ _ (holds.modifyEngine i fun _ => rfl)

open Engine in
theorem handles : Handles (Holds id span many) notify id where
  log _ _ holds := holds.of_eq rfl
  skip := (reports span many callbacks id).skip
  commit := maintains_commit span many callbacks id

/-- Triggering a node leaves the engine with the span in progress that it had: whatever callbacks do
in the meantime, it is set again at the end. -/
theorem maintains_executeNodeEvents (node kind data : Value) :
    Maintains (Holds id span many) (Engine.executeNodeEvents notify id node kind data) := by
  intro w holds
  have idle (x : Act σ Unit) (maintains : Maintains (Holds id span many) x) :
      Holds id span many ((do x; return 0 : Act σ Nat).run w).2 :=
    Maintains.bind maintains (fun _ => .pure 0) w holds
  cases active : (w.engine id).isActive with
  | false =>
    unfold Engine.executeNodeEvents
    rw [Act.run_bind_of_ok (Act.run_engine id w), active]
    exact idle _ fun _ holds => holds.of_eq rfl
  | true =>
    cases known : Gesture.ofValue? kind with
    | none =>
      unfold Engine.executeNodeEvents
      rw [Act.run_bind_of_ok (Act.run_engine id w), active, known]
      exact idle _ ((reports span many callbacks id).skip _)
    | some g =>
      obtain ⟨opened, events, spans, starts⟩ :=
        Engine.run_start id (w.engine id).tracer node (.text g.name) w
      let u := World.sent { w with spans } id events
      have there : id < u.engines.length := World.lt_length_of_isActive active
      have inside : Holds id opened (max many (id + 1))
          (u.modifyEngine id fun e => { e with span := opened }) := by
        refine ⟨by rw [World.engine_modifyEngine_self _ there], ?_⟩
        simp only [World.modifyEngine, List.length_modify]
        exact Nat.max_le.2 ⟨holds.many, there⟩
      have dispatched := (handles opened _ callbacks).dispatch
        (fun n => (reports opened _ callbacks id).traceOpen (Tracer.matched n)) g node data _ inside
      rw [Engine.run_executeNodeEvents_of_active notify active known,
        Engine.run_inSpan_of_start starts rfl rfl]
      refine (reports span many callbacks id).finish _ _ _ ⟨?_, ?_⟩
      · rw [World.engine_modifyEngine_self _ (Nat.max_le.1 dispatched.many).2]
        exact holds.current
      · simp only [World.modifyEngine, List.length_modify]
        exact (Nat.max_le.1 dispatched.many).1

open Engine in
theorem supports {i : Nat} (other : i ≠ id) : Supports (Holds id span many) notify i where
  toReports := reports span many callbacks i
  freshSpan _ holds := holds.of_eq rfl
  setSpan _ _ holds := holds.modifyEngine i fun same => absurd same other
  commit := maintains_commit span many callbacks i

/-- Every call leaves an engine with the span in progress that it had if callbacks do. -/
theorem maintains_perform (op : HostOp) :
    Maintains (Holds id span many) (Host.perform notify op) := by
  cases op with
  | engine i op =>
    have ends : Maintains (Holds id span many) (Engine.disposeAt i : Act σ Unit) :=
      fun _ holds => holds.dispose i
    have updates (changes) :
        Maintains (Holds id span many) (Engine.updateContext i changes : Act σ Unit) :=
      Engine.maintains_updateContext changes fun _ holds _ => holds.modifyEngine i fun _ => rfl
    by_cases other : i = id
    · subst other
      exact (handles span many callbacks).perform op
        (fun node kind data _ => maintains_executeNodeEvents span many callbacks node kind data)
        (fun _ => ends) fun changes _ => updates changes
    · exact (supports span many callbacks other).perform op (fun _ => ends)
        fun changes _ => updates changes
  | slot op =>
    exact Slot.maintains_perform (fun _ _ holds => holds.of_eq rfl)
      (fun i _ holds => holds.dispose i) (fun _ holds => holds.of_eq rfl) op
      fun c _ _ holds => holds.created c

theorem maintains_exchange (op : HostOp) :
    Maintains (Holds id span many) (Act.exchange op (Host.perform notify op)) := by
  intro w holds
  rw [Act.run_exchange]
  have called : Holds id span many (w.record (.called op)) := holds.of_eq rfl
  exact (maintains_perform span many callbacks op _ called).of_eq rfl

end

end Holds

/-- Whatever an engine is asked, and whatever callbacks do in the meantime, afterwards it has the
span in progress that it had before. -/
theorem Host.span_perform (host : Host σ) (depth : Nat) (id : Nat) (op : EngineOp Callback)
    (w : World σ) :
    (((Engine.perform (host.notify depth) id op).run w).2.engine id).span = (w.engine id).span := by
  have callbacks := Host.maintains_notify_each (J := fun i : Option Span × Nat => Holds id i.1 i.2)
    (fun i => Holds.leaves id i.1 i.2)
    (fun _ told i op _ => Holds.maintains_exchange i.1 i.2 told op)
    (fun callback notice => (host.react callback notice).callsOnly_of_forall fun _ => trivial)
    depth
  exact (Holds.maintains_perform (w.engine id).span 0 callbacks (.engine id op) w
    ⟨rfl, Nat.zero_le _⟩).current

end EventCanvas
