import EventCanvas.Proofs.Engine.Handling
import EventCanvas.Proofs.History
import EventCanvas.Proofs.Host
import EventCanvas.Proofs.Slot

/-!
# Disposed engines stay silent

An engine may be disposed at any moment, also from a callback that it is just
running.  Whatever was in progress then goes on, and so may the host.

* `World.Released`: the engine was created, is disposed, and has no data and no
  callbacks left.
* `Engine.perform_of_released`: an operation on a released engine does nothing but
  write to the log, and answers what `EngineOp.outcomeDisposed` says.
* `Host.released_of_disposed`: from its disposal on an engine is released, it starts
  no callback, and every call of it is answered at once in that way.

The invariant `Settled` splits the history of a run at any moment that the
disposal came before.
-/

namespace EventCanvas

open Act (Maintains)

variable {σ : Type}

/-! ## Released engines -/

/-- An engine that was created and disposed has neither data nor callbacks. -/
structure World.Released (w : World σ) (id : Nat) : Prop where
  created : id < w.engines.length
  disposed : (w.engine id).lifecycle = .disposed
  context : (w.engine id).context = .empty

namespace World.Released

variable {w v : World σ} {id i : Nat}

theorem isActive (released : w.Released id) : (w.engine id).isActive = false := by
  simp [Engine.isActive, released.disposed]

theorem hook (released : w.Released id) (h : Hook) :
    (w.engine id).context.hooks.get h = none := by
  rw [released.context]
  exact Context.isEmpty_empty.2.2.2 h

theorem ne_of_isActive (released : w.Released id) (active : (w.engine i).isActive = true) :
    i ≠ id := by
  rintro rfl
  rw [released.isActive] at active
  cases active

theorem of_engine_eq (released : w.Released id) (same : v.engine id = w.engine id)
    (more : w.engines.length ≤ v.engines.length) : v.Released id where
  created := Nat.lt_of_lt_of_le released.created more
  disposed := by rw [same, released.disposed]
  context := by rw [same, released.context]

end World.Released

theorem World.released_dispose {w : World σ} {id : Nat} (active : (w.engine id).isActive = true) :
    (w.dispose id).Released id where
  created := by
    rw [World.dispose_of_isActive active]
    simpa [World.record, World.modifyEngine] using World.lt_length_of_isActive active
  disposed := by rw [World.engine_dispose, Engine.dispose_of_isActive active]
  context := by rw [World.engine_dispose, Engine.dispose_of_isActive active]

/-- How an operation on a disposed engine with a name ends. -/
def EngineOp.outcomeDisposed (name : String) : EngineOp Callback → Except Fault Reply
  | .getVariable _ => .error (.disposed "get_variable")
  | .setVariable .. => .error (.disposed "set_variable")
  | .getNodeValue _ => .error (.disposed "get_node_value")
  | .setNodeValue .. => .error (.disposed "set_node_value")
  | .setNodeText .. => .error (.disposed "set_node_text")
  | .showAlert _ => .error (.disposed "show_alert")
  | .nodeValues => .error (.disposed "node_values")
  | .evaluate _ => .error (.disposed "evaluate_expression")
  | .updateContext _ => .error (.disposed "update_context")
  | .executeAction .. => .ok .nothing
  | .executeEvent .. => .ok .nothing
  | .executeNodeEvents .. => .ok (.value (.int 0))
  | .dispose => .ok .nothing
  | .debugInfo => .ok (.context .empty)
  | .lifecycle => .ok (.value (.text Lifecycle.disposed.name))
  | .isActive => .ok (.value (.bool false))
  | .name => .ok (.value (.text name))
  | .literal => .ok (.value (.text { Engine.absent with name }.literal))

namespace Engine

variable {w : World σ} {id : Nat}

/-- What is only done on an active engine fails on a released one. -/
theorem run_requireActive_of_released {α : Type} (released : w.Released id) (operation : String)
    (k : Unit → Act σ α) :
    (requireActive id operation >>= k).run w = (.error (.disposed operation), w) := by
  refine Act.run_bind_of_error ?_ k
  rw [run_requireActive, released.isActive]
  rfl

theorem literal_of_released (released : w.Released id) :
    (w.engine id).literal = { absent with name := (w.engine id).name }.literal := by
  unfold literal
  rw [released.disposed]
  rfl

/-- An operation on a released engine changes nothing but the log. -/
theorem perform_of_released (notify : Notify σ) (released : w.Released id)
    (op : EngineOp Callback) :
    ∃ lines, (perform notify id op).run w =
      (op.outcomeDisposed (w.engine id).name, { w with log := w.log ++ lines }) := by
  have ends {outcome : Except Fault Reply} (h : (perform notify id op).run w = (outcome, w)) :
      ∃ lines, (perform notify id op).run w = (outcome, { w with log := w.log ++ lines }) :=
    ⟨[], by rw [h, List.append_nil]⟩
  have refused {α : Type} := run_requireActive_of_released (α := α) released
  have idle {α : Type} (active inactive : Act σ α) :
      (if (w.engine id).isActive then active else inactive) = inactive := by
    rw [released.isActive]
    rfl
  cases op with
  | getVariable name => exact ends (Act.run_bind_of_error (refused _ _) _)
  | setVariable name value => exact ends (Act.run_bind_of_error (refused _ _) _)
  | getNodeValue node => exact ends (Act.run_bind_of_error (refused _ _) _)
  | setNodeValue node value => exact ends (Act.run_bind_of_error (refused _ _) _)
  | setNodeText node text => exact ends (Act.run_bind_of_error (refused _ _) _)
  | showAlert message => exact ends (Act.run_bind_of_error (refused _ _) _)
  | nodeValues => exact ends (Act.run_bind_of_error (refused _ _) _)
  | evaluate expression => exact ends (Act.run_bind_of_error (refused _ _) _)
  | updateContext changes => exact ends (Act.run_bind_of_error (refused _ _) _)
  | executeAction action source =>
    have ignores : (executeAction notify id action source).run w =
        (Act.log (logLine .warning ("Ignoring action on disposed engine " ++
          (w.engine id).name))).run w := by
      unfold executeAction
      rw [Act.run_bind_of_ok (Act.run_engine id w), idle]
    exact ⟨_, Act.run_bind_of_ok ignores _⟩
  | executeEvent event source data =>
    have ignores : (executeEvent notify id event source data).run w =
        (Act.log (logLine .warning ("Ignoring event on disposed engine " ++
          (w.engine id).name))).run w := by
      unfold executeEvent
      rw [Act.run_bind_of_ok (Act.run_engine id w), idle]
    exact ⟨_, Act.run_bind_of_ok ignores _⟩
  | executeNodeEvents node kind data =>
    have ignores : (executeNodeEvents notify id node kind data).run w =
        (.ok 0, { w with log := w.log ++ [ignoredTrigger (w.engine id) node kind] }) := by
      unfold executeNodeEvents
      rw [Act.run_bind_of_ok (Act.run_engine id w), idle]
      exact Act.run_bind_of_ok (Act.run_log _ w) _
    exact ⟨_, Act.run_bind_of_ok ignores _⟩
  | dispose =>
    refine ends (Act.run_bind_of_ok (a := ()) (v := w) ?_ _)
    rw [disposeAt, Act.run_dispose, World.dispose_of_not_isActive released.isActive]
  | debugInfo =>
    refine ends (Act.run_bind_of_ok (a := Context.ofTables [] [] (Hooks.all none)) (v := w) ?_ _)
    unfold shownContext
    rw [Act.run_bind_of_ok (Act.run_engine id w), released.context]
    rfl
  | lifecycle =>
    rw [EngineOp.outcomeDisposed, ← released.disposed]
    exact ends rfl
  | isActive =>
    rw [EngineOp.outcomeDisposed, ← released.isActive]
    exact ends rfl
  | name => exact ends rfl
  | literal =>
    rw [EngineOp.outcomeDisposed, ← literal_of_released released]
    exact ends rfl

end Engine

/-! ## Silence in a history -/

/-- What follows a call of an engine that was disposed under a name. -/
def EngineOp.answerDisposed (name : String) (id : Nat) : Event → Option Event
  | .called (.engine i op) =>
    if i = id then some (.answered (.engine i op) (Act.replyTo (op.outcomeDisposed name))) else none
  | _ => none

/-- In a part of a history an engine starts no callback, and every call of it is answered at once,
as a disposed engine with a name answers it. -/
structure Inert (name : String) (id : Nat) (h : List Event) : Prop where
  silent : ∀ callback notice, .observed (.started id callback notice) ∉ h
  answers : Paired (EngineOp.answerDisposed name id) h

namespace Inert

variable {name : String} {id : Nat} {h₁ h₂ : List Event}

theorem nil : Inert name id [] := ⟨fun _ _ => List.not_mem_nil, .nil⟩

/-- An event that starts no callback of the engine and does not call it. -/
theorem single {e : Event} (starts : ∀ callback notice, e ≠ .observed (.started id callback notice))
    (calls : EngineOp.answerDisposed name id e = none) : Inert name id [e] where
  silent callback notice member := starts callback notice (List.mem_singleton.1 member).symm
  answers := .single calls

/-- A call that a disposed engine answered. -/
theorem call (op : EngineOp Callback) :
    Inert name id [.called (.engine id op),
      .answered (.engine id op) (Act.replyTo (op.outcomeDisposed name))] where
  silent _ _ := by simp
  answers := .pair (if_pos rfl) rfl

theorem append (first : Inert name id h₁) (second : Inert name id h₂) :
    Inert name id (h₁ ++ h₂) where
  silent callback notice member :=
    (List.mem_append.1 member).elim (first.silent callback notice) (second.silent callback notice)
  answers := first.answers.append second.answers

theorem of_append (whole : Inert name id (h₁ ++ h₂)) : Inert name id h₂ where
  silent callback notice member :=
    whole.silent callback notice (List.mem_append_right h₁ member)
  answers := whole.answers.of_append

end Inert

/-! ## The invariant -/

/-- The history since a moment, split after the engine was disposed: the engine is released, and
silent in the rest.  `early` says that it was released at that moment already. -/
def Settled (since : List Event) (early : Prop) (id : Nat) (w : World σ) : Prop :=
  ∃ h, w.history = since ++ h ∧ ∀ past future, h = past ++ future →
    (early ∨ .disposed id ∈ past) → w.Released id ∧ Inert (w.engine id).name id future

namespace Settled

variable {since : List Event} {early : Prop} {id i : Nat} {w v : World σ}

/-- What keeps a released engine as it is and adds nothing that it does keeps the invariant. -/
theorem extend (settled : Settled since early id w) (new : List Event)
    (history : v.history = w.history ++ new) (alive : .disposed id ∉ new)
    (kept : w.Released id →
      v.Released id ∧ (v.engine id).name = (w.engine id).name ∧
        Inert (w.engine id).name id new) :
    Settled since early id v := by
  obtain ⟨h, since_h, splits⟩ := settled
  refine ⟨h ++ new, by rw [history, since_h, List.append_assoc], fun past future split gone => ?_⟩
  rcases List.append_eq_append_iff.1 split with ⟨a, rfl, rfl⟩ | ⟨a, rfl, rfl⟩
  · have before : early ∨ .disposed id ∈ h := by
      rcases gone with gone | gone
      · exact .inl gone
      · rcases List.mem_append.1 gone with member | member
        · exact .inr member
        · exact absurd (List.mem_append_left future member) alive
    obtain ⟨released, same, inert⟩ := kept (splits h [] (List.append_nil h).symm before).1
    rw [same]
    exact ⟨released, inert.of_append⟩
  · obtain ⟨was, inert⟩ := splits past a rfl gone
    obtain ⟨released, same, more⟩ := kept was
    rw [same]
    exact ⟨released, inert.append more⟩

/-- What leaves the engines and the history alone keeps the invariant. -/
theorem of_eq (settled : Settled since early id w) (engines : v.engines = w.engines)
    (history : v.history = w.history) : Settled since early id v := by
  have same : v.engine id = w.engine id := by simp only [World.engine, engines]
  refine settled.extend [] (by rw [history, List.append_nil]) List.not_mem_nil
    fun released => ⟨released.of_engine_eq same (by simp [engines]), by rw [same], .nil⟩

theorem record (settled : Settled since early id w) {e : Event} (alive : e ≠ .disposed id)
    (inert : w.Released id → Inert (w.engine id).name id [e]) :
    Settled since early id (w.record e) :=
  settled.extend _ rfl (by simpa using alive.symm) fun released =>
    ⟨released.of_engine_eq rfl (Nat.le_refl _), rfl, inert released⟩

/-- A change of another engine, or one that does not touch what is left of a released engine. -/
theorem modifyEngine (settled : Settled since early id w) {f : Engine → Engine}
    (kept : w.Released id → i = id →
      ∃ span, f (w.engine id) = { w.engine id with span }) :
    Settled since early id (w.modifyEngine i f) := by
  refine settled.extend [] (List.append_nil _).symm List.not_mem_nil fun released => ?_
  have more : w.engines.length ≤ (w.modifyEngine i f).engines.length := by
    simp [World.modifyEngine]
  by_cases hit : i = id
  · obtain ⟨span, same⟩ := kept released hit
    rw [← World.engine_modifyEngine_self f released.created] at same
    subst hit
    refine ⟨⟨Nat.lt_of_lt_of_le released.created more, ?_, ?_⟩, ?_, .nil⟩
    · rw [same, released.disposed]
    · rw [same, released.context]
    · rw [same]
  · have same := World.engine_modifyEngine_of_ne w f hit
    exact ⟨released.of_engine_eq same more, by rw [same], .nil⟩

/-- Disposing an engine begins its silence. -/
theorem dispose (settled : Settled since early id w) (i : Nat) :
    Settled since early id (w.dispose i) := by
  cases active : (w.engine i).isActive with
  | false => rwa [World.dispose_of_not_isActive active]
  | true =>
    by_cases hit : i = id
    · subst hit
      obtain ⟨h, since_h, splits⟩ := settled
      -- an active engine is not released, so it was not disposed before
      have before : ¬(early ∨ .disposed i ∈ h) := fun gone =>
        ((splits h [] (List.append_nil h).symm gone).1.ne_of_isActive active) rfl
      refine ⟨h ++ [.disposed i], ?_, fun past future split gone => ?_⟩
      · rw [World.dispose_of_isActive active, World.history_record, World.history_modifyEngine,
          since_h, List.append_assoc]
      · refine ⟨World.released_dispose active, ?_⟩
        rcases List.eq_nil_or_concat future with rfl | ⟨rest, last, rfl⟩
        · exact .nil
        · rw [List.concat_eq_append, ← List.append_assoc] at split
          obtain ⟨rfl, -⟩ := List.append_inj' split rfl
          exact absurd (gone.imp_right (List.mem_append_left rest)) before
    · rw [World.dispose_of_isActive active]
      refine record (modifyEngine settled fun _ same => absurd same hit) ?_ fun _ => ?_
      · simpa using hit
      · exact .single (by simp) rfl

end Settled

/-! ## Every step keeps the invariant -/

section

variable {notify : Notify σ} {since : List Event} {early : Prop} {id : Nat}

/-- Telling the host keeps the invariant: a released engine has nobody to tell. -/
theorem Settled.maintains_tell
    (callbacks : ∀ callback notice, Maintains (Settled since early id) (notify callback notice))
    (i : Nat) (notice : Notice) :
    Maintains (Settled since early id) (Engine.tell notify i notice) := by
  refine Engine.maintains_tell notice (fun w callback settled bound => ?_)
    fun callback => callbacks callback notice
  refine settled.record (by simp) fun released => .single (fun callback' notice' same => ?_) rfl
  simp only [Event.observed.injEq, Observation.started.injEq] at same
  obtain ⟨rfl, -⟩ := same
  rw [released.hook] at bound
  cases bound

open Engine in
/-- What handling events on any engine comes down to keeps the invariant. -/
theorem Settled.supports
    (callbacks : ∀ callback notice, Maintains (Settled since early id) (notify callback notice))
    (i : Nat) : Supports (Settled since early id) notify i where
  log _ _ settled := settled.of_eq rfl rfl
  traced _ _ settled := settled.record (by simp) fun _ => .single (by simp) rfl
  freshSpan _ settled := settled.of_eq rfl rfl
  setSpan s _ settled := settled.modifyEngine fun _ _ => ⟨s, rfl⟩
  commit x := maintains_commit x fun w settled active _ =>
    Settled.maintains_tell callbacks i x.notice _
      (settled.modifyEngine fun released same => absurd same (released.ne_of_isActive active))
  report _ := Settled.maintains_tell callbacks i _

/-- A new engine leaves those that there are alone. -/
theorem Settled.created {w : World σ} (settled : Settled since early id w)
    (context : Context Callback) : Settled since early id (Slot.created w context) := by
  refine settled.extend _ rfl (by simp) fun released => ?_
  have same := Slot.engine_created_of_ne w context (Nat.ne_of_lt released.created)
  refine ⟨released.of_engine_eq same ?_, by rw [same], .single (by simp) rfl⟩
  simp [Slot.created]

/-- A call keeps the invariant if callbacks do.  A call of a released engine is looked at as a
whole, since only its answer says that nothing came of it. -/
theorem Settled.maintains_exchange
    (callbacks : ∀ callback notice, Maintains (Settled since early id) (notify callback notice))
    (op : HostOp) :
    Maintains (Settled since early id) (Act.exchange op (Host.perform notify op)) := by
  intro w settled
  by_cases dead : w.Released id ∧ ∃ engineOp, op = .engine id engineOp
  · obtain ⟨released, engineOp, rfl⟩ := dead
    have called : (w.record (.called (.engine id engineOp))).Released id :=
      released.of_engine_eq rfl (Nat.le_refl _)
    obtain ⟨lines, run⟩ := Engine.perform_of_released notify called engineOp
    rw [Act.run_exchange, Host.perform, run]
    refine settled.extend [.called (.engine id engineOp), .answered (.engine id engineOp)
      (Act.replyTo (engineOp.outcomeDisposed (w.engine id).name))] ?_ (by simp) fun released => ?_
    · exact List.append_assoc _ _ _
    · exact ⟨released.of_engine_eq rfl (Nat.le_refl _), rfl, .call engineOp⟩
  · rw [Act.run_exchange]
    have called : Settled since early id (w.record (.called op)) := by
      refine settled.record (by simp) fun released => .single (by simp) ?_
      cases op with
      | slot slotOp => rfl
      | engine i engineOp => exact if_neg fun same => dead ⟨released, engineOp, by rw [same]⟩
    have performed : Maintains (Settled since early id) (Host.perform notify op) := by
      cases op with
      | engine i engineOp =>
        refine (Settled.supports callbacks i).perform engineOp
          (fun _ _ settled => settled.dispose i)
          fun changes _ => Engine.maintains_updateContext changes fun w settled active => ?_
        exact settled.modifyEngine fun released same =>
          absurd same (released.ne_of_isActive active)
      | slot slotOp =>
        exact Slot.maintains_perform (fun _ _ settled => settled.of_eq rfl rfl)
          (fun i _ settled => settled.dispose i) (fun _ settled => settled.of_eq rfl rfl) slotOp
          fun c _ _ settled => settled.created c
    exact (performed _ called).record (by simp) fun _ => .single (by simp) rfl

end

/-! ## Every run -/

/-- What a host does by itself keeps the invariant. -/
theorem Settled.leaves (since : List Event) (early : Prop) (id : Nat) :
    Host.Leaves (Settled since early id : World σ → Prop) where
  write _ _ settled := settled.of_eq rfl rfl
  log _ _ settled := settled.of_eq rfl rfl
  note _ _ settled := settled.record (by simp) fun _ => .single (by simp) rfl

namespace Host

variable {α : Type}

/-- Disposing an active engine releases it.  From then on, in the middle of whatever it was doing
and in every run of every host, it is without data and callbacks, it starts no callback, and every
call of it is answered at once and does nothing: direct accesses fail, and what would execute
something returns. -/
theorem released_of_disposed (host : Host σ) (depth : Nat) (p : Program σ α) (w : World σ)
    (id : Nat) :
    (∀ (notify : Notify σ) (v : World σ), (v.engine id).isActive = true →
      ∃ v', (Engine.perform notify id .dispose).run v = (.ok .nothing, v') ∧ v'.Released id ∧
        v'.history = v.history ++ [.disposed id]) ∧
    (∀ (notify : Notify σ) (v : World σ), v.Released id → ∀ op, ∃ lines,
      (Engine.perform notify id op).run v =
        (op.outcomeDisposed (v.engine id).name, { v with log := v.log ++ lines })) ∧
    ∃ h, ((host.run depth p).run w).2.history = w.history ++ h ∧
      ∀ past future, h = past ++ future → (w.Released id ∨ .disposed id ∈ past) →
        ((host.run depth p).run w).2.Released id ∧
        Inert (((host.run depth p).run w).2.engine id).name id future := by
  refine ⟨fun notify v active => ?_, fun notify v released op =>
    Engine.perform_of_released notify released op, ?_⟩
  · refine ⟨v.dispose id, rfl, World.released_dispose active, ?_⟩
    rw [World.dispose_of_isActive active, World.history_record, World.history_modifyEngine]
  · have start : Settled w.history (w.Released id) id w := by
      refine ⟨[], (List.append_nil _).symm, fun past future split gone => ?_⟩
      obtain ⟨rfl, rfl⟩ := List.nil_eq_append_iff.1 split
      rcases gone with released | member
      · exact ⟨released, .nil⟩
      · cases member
    exact host.maintains (Settled.leaves _ _ id)
      (fun _ callbacks => Settled.maintains_exchange callbacks) depth p w start

end Host

end EventCanvas
