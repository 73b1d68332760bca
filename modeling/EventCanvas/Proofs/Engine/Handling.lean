import EventCanvas.Proofs.Engine.Effect

/-!
# What handling events maintains

Running actions, events and dispatches comes down to few things: writing to the
log and to the tracer, setting the span in progress, having effects, and
reporting diagnostics.  `Engine.Supports I` says that each of them maintains `I`.
Then so does every operation on the engine (`Supports.perform`), where disposing
the engine and replacing its context are left to the caller.

`Engine.Handles I` asks for less: what is sent to the tracer only has to maintain
`I` together with the skip that it is about.  Dispatches are then left to the
caller as well (`Handles.perform`).

Both go the same way through actions and events, which is gone once for
`Engine.Acts I`: there what an action does when its texts are final is a premise,
and so is the copy of the value that comes with an event.
-/

namespace EventCanvas.Engine

variable {σ : Type} {notify : Notify σ} {id : Nat} {I : World σ → Prop}

/-- What skipping something comes down to maintains a property of worlds. -/
structure Reports (I : World σ → Prop) (notify : Notify σ) (id : Nat) : Prop where
  log : ∀ r, Act.Maintains I (Act.log r)
  traced : ∀ e, Act.Maintains I (Act.observe (.traced id e))
  report : ∀ d, Act.Maintains I (tell notify id (.diagnosed d))

/-- Skipping and the effects of final actions maintain a property of worlds. -/
structure Acts (I : World σ → Prop) (notify : Notify σ) (id : Nat) : Prop where
  log : ∀ r, Act.Maintains I (Act.log r)
  skip : ∀ reason, Act.Maintains I (skip notify id reason)
  act : ∀ source a, Act.Maintains I (runAction notify id source a)

/-- What running actions and events comes down to maintains a property of worlds. -/
structure Handles (I : World σ → Prop) (notify : Notify σ) (id : Nat) : Prop where
  log : ∀ r, Act.Maintains I (Act.log r)
  skip : ∀ reason, Act.Maintains I (skip notify id reason)
  commit : ∀ x, Act.Maintains I (commit notify id x)

/-- What handling events comes down to maintains a property of worlds. -/
structure Supports (I : World σ → Prop) (notify : Notify σ) (id : Nat) : Prop
    extends Reports I notify id where
  freshSpan : Act.Maintains I Act.freshSpan
  setSpan : ∀ s, Act.Maintains I (setSpan id s)
  commit : ∀ x, Act.Maintains I (commit notify id x)

open Act (Maintains)

/-! ## What changes an engine -/

/-- Telling the host maintains what starting a callback and the callback do. -/
theorem maintains_tell (notice : Notice)
    (starts : ∀ w callback, I w →
      (w.engine id).context.hooks.get notice.hook = some callback →
      I (w.record (.observed (.started id callback notice))))
    (callbacks : ∀ callback, Maintains I (notify callback notice)) :
    Maintains I (tell notify id notice) := by
  intro w holds
  rw [run_tell]
  cases bound : (w.engine id).context.hooks.get notice.hook with
  | none => exact holds
  | some callback => exact callbacks callback _ (starts w callback holds bound)

/-- An effect maintains what writing it and telling the host do, on an engine that is active and
where nothing is in the way. -/
theorem maintains_commit (x : Effect)
    (has : ∀ w, I w → (w.engine id).isActive = true → x.obstacle? (w.engine id).context = none →
      I ((tell notify id x.notice).run (written w id x)).2) :
    Maintains I (commit notify id x) := by
  intro w holds
  rw [run_commit]
  cases active : (w.engine id).isActive with
  | false => exact holds
  | true =>
    simp only [if_true]
    cases free : x.obstacle? (w.engine id).context with
    | some f => exact holds
    | none => exact has w holds active free

/-- Replacing parts of the context maintains what replacing the context of an active engine does. -/
theorem maintains_updateContext (changes : List (ContextChange Callback))
    (replaces : ∀ w, I w → (w.engine id).isActive = true →
      I (w.modifyEngine id fun e =>
        { e with context := changes.foldl ContextChange.apply e.context })) :
    Maintains I (updateContext id changes) := by
  intro w holds
  unfold updateContext
  rw [Act.run_bind, run_requireActive]
  cases active : (w.engine id).isActive with
  | false => exact holds
  | true =>
    simp only [if_true]
    cases ContextChange.fault? changes with
    | some f => exact holds
    | none => exact replaces w holds active

/-! ## Skipping -/

theorem succeeds_traceOpen (event : Span → SpanEvent) :
    Act.Succeeds (traceOpen id event : Act σ Unit) := by
  refine .bind (.engine id) fun e => ?_
  unfold Tracer.send
  cases e.tracer.target e.span with
  | none => exact .pure ()
  | some span => exact .record _

/-- Skipping something never fails. -/
theorem succeeds_skip (notify : Notify σ) (id : Nat) (s : Skip) : Act.Succeeds (skip notify id s) :=
  .bind (.log _) fun _ => .bind (succeeds_traceOpen _) fun _ => .tryCatch _ fun _ => .log _

namespace Reports

theorem traceOpen (r : Reports I notify id) (event : Span → SpanEvent) :
    Maintains I (traceOpen id event) := by
  refine .bind Act.ReadsOnly.engine.maintains fun e => ?_
  unfold Tracer.send
  cases e.tracer.target e.span with
  | none => exact .pure _
  | some span => exact r.traced _

theorem reportSkip (r : Reports I notify id) (reason : Skip) :
    Maintains I (reportSkip notify id reason) := by
  refine .bind Act.ReadsOnly.engine.maintains fun e => ?_
  cases e.context.hooks.diagnostic.isSome with
  | false => exact .pure _
  | true =>
    simp only [if_true]
    cases Diagnostic.about? reason.kind reason.message reason.nodeId reason.detail with
    | bad issues => exact .throw _
    | ok d => exact r.report d

theorem skip (r : Reports I notify id) (reason : Skip) : Maintains I (skip notify id reason) :=
  .bind (r.log _) fun _ => .bind (r.traceOpen _) fun _ =>
    .tryCatch (r.reportSkip reason) fun _ => r.log _

theorem finish (r : Reports I notify id) (fault : Option Fault) (span : Option Span) :
    Maintains I (Tracer.finish id fault span) := by
  rcases span with _ | span
  · exact .pure _
  · rcases fault with _ | f
    · exact r.traced _
    · exact .bind (r.traced _) fun _ => .bind (r.traced _) fun _ => r.traced _

end Reports

namespace Acts

theorem guarded (s : Acts I notify id) {x : Act σ Unit} (body : Maintains I x)
    (onFault : Fault → Skip) : Maintains I (guarded notify id x onFault) :=
  .tryCatch body fun f => s.skip (onFault f)

/-! ## Actions -/

theorem runCoerced (s : Acts I notify id) (source : Value) (c : Coerced) :
    Maintains I (runCoerced notify id source c) := by
  cases c with
  | unknown tag => exact s.skip _
  | malformed tag issues => exact s.skip _
  | kindless target value =>
    exact .bind (readsOnly_evaluatedParts id _ _).maintains fun _ => s.skip _
  | action a =>
    exact .bind (readsOnly_evaluatedParts id _ _).maintains fun _ => s.act _ _

theorem executeAction (s : Acts I notify id) (action source : Value) :
    Maintains I (executeAction notify id action source) := by
  refine .bind Act.ReadsOnly.engine.maintains fun e => ?_
  cases e.isActive with
  | false => exact s.log _
  | true => exact s.guarded (s.runCoerced _ _) _

/-! ## Events -/

theorem runEventAction (s : Acts I notify id) (g : Gesture) (event source : Value) :
    Maintains I (runEventAction notify id g event source) := by
  unfold Engine.runEventAction
  dsimp only
  split
  · exact s.skip _
  · exact s.executeAction _ _

section

variable {source data : Value} (copies : ∀ g, Maintains I (copyInput notify id g source data))

include copies

theorem executeEvent (s : Acts I notify id) (event : Value) :
    Maintains I (executeEvent notify id event source data) := by
  refine .bind Act.ReadsOnly.engine.maintains fun e => ?_
  cases e.isActive with
  | false => exact s.log _
  | true =>
    simp only [if_true]
    cases Gesture.ofValue? (event.fieldOf "type") with
    | none => exact s.skip _
    | some g => exact .bind (s.log _) fun _ => .bind (copies g) fun _ => s.runEventAction _ _ _

/-- Running events one after the other maintains what running each of them does. -/
theorem attemptEvents (s : Acts I notify id) (g : Gesture) (events : List Value) :
    Maintains I (attemptEvents notify id g source data events) := by
  induction events with
  | nil => exact .pure _
  | cons event events ih => exact .bind (s.guarded (s.executeEvent copies _) _) fun _ => ih

end

/-- Dispatching maintains what running events does, if noting the count does.  Of the node it is
known then that it has a record. -/
theorem dispatch (s : Acts I notify id)
    (counted : ∀ n, Maintains I (traceOpen id (Tracer.matched n))) {node data : Value}
    (copies : ∀ w record, I w → ((recordOf id node).run w).1 = .ok record →
      record.isNull = false → ∀ g, Maintains I (copyInput notify id g node data))
    (g : Gesture) : Maintains I (dispatch notify id g node data) := by
  intro w holds
  obtain ⟨record?, reads⟩ := readsOnly_recordOf (σ := σ) id node
  unfold Engine.dispatch
  rw [Act.run_bind, reads]
  cases found : record? (w.engine id) with
  | error f => exact holds
  | ok record =>
    dsimp only
    cases null : record.isNull with
    | true => exact Maintains.bind (s.skip _) (fun _ => .pure _) w holds
    | false =>
      simp only [Bool.false_eq_true, if_false]
      cases eventsOf? record with
      | none => exact Maintains.bind (s.skip _) (fun _ => .pure _) w holds
      | some events =>
        have known := copies w record holds (by rw [reads, found]) null
        exact Maintains.bind (s.attemptEvents known g _)
          (fun _ => .bind (counted _) fun _ => .pure _) w holds

end Acts

/-- To copy an input maintains what the write of its value to its node does, if it has one. -/
theorem maintains_copyInput (skips : ∀ reason, Maintains I (skip notify id reason)) {g : Gesture}
    {source data : Value}
    (writes : ∀ v, g = .change → carriedValue data = .ok v → carriesValue data = .ok true →
      Maintains I (commit notify id (.setNode .value source v))) :
    Maintains I (copyInput notify id g source data) := by
  unfold Engine.copyInput
  split
  · next change =>
    refine .ofExcept_bind fun found carries => ?_
    cases found with
    | false => exact .pure _
    | true =>
      refine .tryCatch (.ofExcept_bind fun v carried => ?_) fun _ => skips _
      rw [setNodeValue_eq_commit]
      exact writes v change carried carries
  · exact .pure _

section

variable (skips : ∀ reason, Maintains I (skip notify id reason))
  (relabels : ∀ w node value, I w → ((hasNode id node).run w).1 = .ok true →
    I ((commit notify id (.setNode .label node value)).run w).2)

include skips relabels

theorem maintains_runSetText (source : Value) (target : Option String) (value : String) :
    Maintains I (runSetText notify id source target value) := by
  unfold runSetText
  dsimp only
  split
  · exact skips _
  · intro w holds
    obtain ⟨has?, reads⟩ := readsOnly_hasNode (σ := σ) id (labelTarget target source)
    rw [Act.run_bind, reads]
    cases found : has? (w.engine id) with
    | error f => exact holds
    | ok has =>
      cases has with
      | false => exact skips _ w holds
      | true =>
        simp only [if_true, setNodeText_eq_commit]
        exact relabels w _ _ holds (by rw [reads, found])

/-- To run a final action maintains what its effect does; of a label it is known then that there is
a record of the node. -/
theorem maintains_runAction
    (writes : ∀ name value, Maintains I (commit notify id (.setVariable name value)))
    (shows : ∀ message, Maintains I (commit notify id (.showAlert message)))
    (source : Value) (a : Action) : Maintains I (runAction notify id source a) := by
  unfold runAction
  cases a.kind with
  | setText => exact maintains_runSetText skips relabels _ _ _
  | setVariable =>
    dsimp only
    unfold runSetVariable
    cases a.target with
    | none => exact skips _
    | some t =>
      dsimp only
      split
      · exact skips _
      · rw [setVariable_eq_commit]
        exact writes _ _
  | showAlert =>
    dsimp only
    rw [showAlert_eq_commit]
    exact shows _

end

namespace Handles

theorem acts (s : Handles I notify id) : Acts I notify id where
  log := s.log
  skip := s.skip
  act := maintains_runAction s.skip (fun w _ _ holds _ => s.commit _ w holds)
    (fun _ _ => s.commit _) fun _ => s.commit _

theorem executeAction (s : Handles I notify id) (action source : Value) :
    Maintains I (executeAction notify id action source) := s.acts.executeAction action source

theorem copyInput (s : Handles I notify id) (source data : Value) (g : Gesture) :
    Maintains I (copyInput notify id g source data) :=
  maintains_copyInput s.skip fun _ _ _ _ => s.commit _

theorem executeEvent (s : Handles I notify id) (event source data : Value) :
    Maintains I (executeEvent notify id event source data) :=
  s.acts.executeEvent (s.copyInput source data) event

theorem attemptEvents (s : Handles I notify id) (g : Gesture) (node data : Value)
    (events : List Value) : Maintains I (attemptEvents notify id g node data events) :=
  s.acts.attemptEvents (s.copyInput node data) g events

theorem dispatch (s : Handles I notify id)
    (counted : ∀ n, Maintains I (traceOpen id (Tracer.matched n))) (g : Gesture)
    (node data : Value) : Maintains I (dispatch notify id g node data) :=
  s.acts.dispatch counted (fun _ _ _ _ _ => s.copyInput node data) g

/-! ## Operations -/

/-- Every operation on the engine maintains what running events does, if dispatching events,
disposing the engine and replacing its context do. -/
theorem perform (s : Handles I notify id) (op : EngineOp Callback)
    (dispatches : ∀ node kind data, op = .executeNodeEvents node kind data →
      Maintains I (executeNodeEvents notify id node kind data))
    (ends : op = .dispose → Maintains I (disposeAt id))
    (updates : ∀ changes, op = .updateContext changes → Maintains I (updateContext id changes)) :
    Maintains I (perform notify id op) := by
  cases op with
  | getVariable name => exact .bind (readsOnly_getVariable id _).maintains fun _ => .pure _
  | setVariable name value =>
    refine .bind ?_ fun _ => .pure _
    rw [setVariable_eq_commit]
    exact s.commit _
  | getNodeValue node => exact .bind (readsOnly_getNodeValue id _).maintains fun _ => .pure _
  | setNodeValue node value =>
    refine .bind ?_ fun _ => .pure _
    rw [setNodeValue_eq_commit]
    exact s.commit _
  | setNodeText node text =>
    refine .bind ?_ fun _ => .pure _
    rw [setNodeText_eq_commit]
    exact s.commit _
  | showAlert message =>
    refine .bind ?_ fun _ => .pure _
    rw [showAlert_eq_commit]
    exact s.commit _
  | nodeValues => exact .bind (readsOnly_nodeValues id).maintains fun _ => .pure _
  | evaluate expression => exact .bind (readsOnly_evaluate id _).maintains fun _ => .pure _
  | executeAction action source => exact .bind (s.executeAction _ _) fun _ => .pure _
  | executeEvent event source data => exact .bind (s.executeEvent _ _ _) fun _ => .pure _
  | executeNodeEvents node kind data => exact .bind (dispatches _ _ _ rfl) fun _ => .pure _
  | updateContext changes => exact .bind (updates changes rfl) fun _ => .pure _
  | dispose => exact .bind (ends rfl) fun _ => .pure _
  | debugInfo => exact .bind (readsOnly_shownContext id).maintains fun _ => .pure _
  | lifecycle => exact .bind Act.ReadsOnly.engine.maintains fun _ => .pure _
  | isActive => exact .bind Act.ReadsOnly.engine.maintains fun _ => .pure _
  | name => exact .bind Act.ReadsOnly.engine.maintains fun _ => .pure _
  | literal => exact .bind Act.ReadsOnly.engine.maintains fun _ => .pure _

end Handles

/-! ## Dispatch -/

namespace Reports

section

variable (fresh : Maintains I Act.freshSpan) (set : ∀ s, Maintains I (setSpan id s))

include fresh

theorem start (r : Reports I notify id) (t : Tracer) (node event : Value) :
    Maintains I (t.start id node event) := by
  rcases t with ⟨name, _ | _⟩ | _
  · exact .pure _
  · exact .bind fresh fun _ => .bind (r.traced _) fun _ => .bind (r.traced _) fun _ => .pure _
  · exact .pure _

include set

theorem inSpan {α : Type} (r : Reports I notify id) (g : Gesture) (node : Value) {x : Act σ α}
    (body : Maintains I x) : Maintains I (inSpan id g node x) := by
  refine .bind Act.ReadsOnly.engine.maintains fun e => .bind (r.start fresh _ _ _) fun span =>
    .bind (set _) fun _ => .bind (.attempt body) fun result =>
      .bind (set _) fun _ => ?_
  cases result with
  | ok a => exact .bind (r.finish _ _) fun _ => .pure _
  | error f => exact .bind (r.finish _ _) fun _ => .throw _

/-- A trigger maintains what dispatching does, if spans do not matter. -/
theorem executeNodeEvents (r : Reports I notify id) {node data : Value} (kind : Value)
    (dispatches : ∀ g, Maintains I (dispatch notify id g node data)) :
    Maintains I (executeNodeEvents notify id node kind data) := by
  refine .bind Act.ReadsOnly.engine.maintains fun e => ?_
  cases e.isActive with
  | false => exact .bind (r.log _) fun _ => .pure _
  | true =>
    simp only [if_true]
    cases Gesture.ofValue? kind with
    | none => exact .bind (r.skip _) fun _ => .pure _
    | some g => exact r.inSpan fresh set g node (dispatches g)

end

end Reports

namespace Supports

theorem handles (s : Supports I notify id) : Handles I notify id := ⟨s.log, s.skip, s.commit⟩

theorem dispatch (s : Supports I notify id) (g : Gesture) (node data : Value) :
    Maintains I (dispatch notify id g node data) :=
  s.handles.dispatch (fun _ => s.traceOpen _) g node data

theorem executeNodeEvents (s : Supports I notify id) (node kind data : Value) :
    Maintains I (executeNodeEvents notify id node kind data) :=
  s.toReports.executeNodeEvents s.freshSpan s.setSpan kind fun g => s.dispatch g node data

/-- Every operation on the engine maintains what is supported, if disposing the engine and
replacing its context do. -/
theorem perform (s : Supports I notify id) (op : EngineOp Callback)
    (ends : op = .dispose → Maintains I (disposeAt id))
    (updates : ∀ changes, op = .updateContext changes → Maintains I (updateContext id changes)) :
    Maintains I (perform notify id op) :=
  s.handles.perform op (fun node kind data _ => s.executeNodeEvents node kind data) ends updates

end Supports

end EventCanvas.Engine
