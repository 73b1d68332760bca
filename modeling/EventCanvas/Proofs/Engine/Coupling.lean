import EventCanvas.Proofs.Engine.Handling
import EventCanvas.Proofs.Engine.Likeness

/-!
# Two engines handling events side by side

Two engines that resemble each other are given the same to do, while the hosts that
they tell may differ.  Their steps are compared by two relations: `whole` for what
ends in the same way on both, and `part` for what may end differently but only as the
callbacks do.  `Engine.Couples whole part` says that the few things which handling
events comes down to are so related, where an effect only has to be in part, and what
catches faults is so on the whole if what it guards is in part.

* `Couples.executeAction`, `Couples.executeEvent`: running actions and events that
  look the same is related on the whole.
* `Couples.executeNodeEvents`: so is dispatching.
* `Couples.perform`, `Couples.perform_part`: so is every operation that does not show
  the context, but for those that have an effect directly.
-/

namespace EventCanvas.Engine

variable {σ α β : Type} {id : Nat}

/-- Whether an operation has one effect, and so ends as the callback that is told of it does. -/
def isDirect {γ : Type} : EngineOp γ → Bool
  | .setVariable .. | .setNodeValue .. | .setNodeText .. | .showAlert _ => true
  | _ => false

/-- A relation between steps holds of what an engine does without telling its host. -/
structure Shares (whole : ∀ {α : Type}, Act σ α → Act σ α → Prop) (id : Nat) : Prop where
  pure : ∀ {α : Type} (a : α), whole (Pure.pure a) (Pure.pure a)
  throw : ∀ {α : Type} (f : Fault), whole (throw f : Act σ α) (throw f)
  bind : ∀ {α β : Type} {x y : Act σ α} {k l : α → Act σ β}, whole x y →
    (∀ a, whole (k a) (l a)) → whole (x >>= k) (y >>= l)
  attempt : ∀ {α : Type} {x y : Act σ α}, whole x y → whole (Act.attempt x) (Act.attempt y)
  read : ∀ {α β γ : Type} {R : α → β → Prop} {x : Act σ α} {y : Act σ β} {k : α → Act σ γ}
    {l : β → Act σ γ}, Reads id R x y → (∀ a b, R a b → whole (k a) (l b)) →
      whole (x >>= k) (y >>= l)
  log : ∀ r, whole (Act.log r) (Act.log r)
  record : ∀ e, whole (Act.record e) (Act.record e)
  freshSpan : whole Act.freshSpan Act.freshSpan
  modifyEngine : ∀ f : Engine → Engine, (∀ e d, e.Resembles d → (f e).Resembles (f d)) →
    whole (Act.modifyEngine id f) (Act.modifyEngine id f)
  dispose : whole (Act.dispose id) (Act.dispose id)

/-- Two relations between steps hold of what handling events comes down to. -/
structure Couples (whole part : ∀ {α : Type}, Act σ α → Act σ α → Prop)
    (notify notify' : Notify σ) (id : Nat) : Prop extends Shares whole id where
  part_of_whole : ∀ {α : Type} {x y : Act σ α}, whole x y → part x y
  bind_part : ∀ {α β : Type} {x y : Act σ α} {k l : α → Act σ β}, whole x y →
    (∀ a, part (k a) (l a)) → part (x >>= k) (y >>= l)
  part_then : ∀ {x y : Act σ Unit} (reply : Reply), part x y →
    part (x >>= fun _ => Pure.pure reply) (y >>= fun _ => Pure.pure reply)
  skip : ∀ reason, whole (skip notify id reason) (skip notify' id reason)
  guarded : ∀ {x y : Act σ Unit} (onFault : Fault → Skip), part x y →
    whole (guarded notify id x onFault) (guarded notify' id y onFault)
  commit : ∀ x, part (commit notify id x) (commit notify' id x)

/-! ## What the host is not told -/

namespace Shares

variable {whole : ∀ {α : Type}, Act σ α → Act σ α → Prop}

theorem ofExcept (s : Shares whole id) (r : Except Fault α) :
    whole (Act.ofExcept r : Act σ α) (Act.ofExcept r) := by
  cases r with
  | ok a => exact s.pure a
  | error f => exact s.throw f

theorem of_reads (s : Shares whole id) {x y : Act σ α} (reads : Reads id Eq x y) : whole x y := by
  rw [← bind_pure x, ← bind_pure y]
  exact s.read reads fun a _ same => same ▸ s.pure a

theorem traceOpen (s : Shares whole id) (event : Span → SpanEvent) :
    whole (traceOpen id event : Act σ Unit) (Engine.traceOpen id event) := by
  refine s.read .engine fun e d alike => ?_
  rw [alike.tracer, alike.span]
  unfold Tracer.send
  cases d.tracer.target d.span with
  | none => exact s.pure _
  | some span => exact s.record _

theorem start (s : Shares whole id) (t : Tracer) (node event : Value) :
    whole (t.start id node event : Act σ (Option Span)) (t.start id node event) := by
  rcases t with ⟨name, _ | _⟩ | _
  · exact s.pure _
  · exact s.bind s.freshSpan fun _ => s.bind (s.record _) fun _ => s.bind (s.record _) fun _ =>
      s.pure _
  · exact s.pure _

theorem finish (s : Shares whole id) (fault : Option Fault) (span : Option Span) :
    whole (Tracer.finish id fault span : Act σ Unit) (Tracer.finish id fault span) := by
  rcases span with _ | span
  · exact s.pure _
  · rcases fault with _ | f
    · exact s.record _
    · exact s.bind (s.record _) fun _ => s.bind (s.record _) fun _ => s.record _

theorem setSpan (s : Shares whole id) (span : Option Span) :
    whole (setSpan id span : Act σ Unit) (Engine.setSpan id span) :=
  s.modifyEngine _ fun _ _ alike =>
    ⟨alike.context, alike.settings, alike.name, alike.lifecycle, alike.tracer, rfl⟩

theorem inSpan (s : Shares whole id) (g : Gesture) (node : Value) {x y : Act σ α}
    (body : whole x y) : whole (inSpan id g node x) (Engine.inSpan id g node y) := by
  refine s.read .engine fun e d alike => ?_
  rw [alike.tracer, alike.span]
  refine s.bind (s.start _ _ _) fun span => s.bind (s.setSpan _) fun _ =>
    s.bind (s.attempt body) fun result => s.bind (s.setSpan _) fun _ => ?_
  cases result with
  | ok a => exact s.bind (s.finish _ _) fun _ => s.pure _
  | error f => exact s.bind (s.finish _ _) fun _ => s.throw _

theorem updateContext (s : Shares whole id) (changes : List (ContextChange Callback)) :
    whole (updateContext id changes : Act σ Unit) (Engine.updateContext id changes) := by
  refine s.bind (s.of_reads (.requireActive id _)) fun _ => ?_
  cases ContextChange.fault? changes with
  | some f => exact s.throw f
  | none =>
    exact s.modifyEngine _ fun _ _ alike => alike.withContext fun _ _ same => same.applyAll changes

end Shares

namespace Couples

variable {whole part : ∀ {α : Type}, Act σ α → Act σ α → Prop} {notify notify' : Notify σ}

/-! ## Actions -/

theorem runAction (c : Couples whole part notify notify' id) (source : Value) (a : Action) :
    part (runAction notify id source a) (Engine.runAction notify' id source a) := by
  have skips (reason : Skip) := c.part_of_whole (c.skip reason)
  unfold Engine.runAction
  cases a.kind with
  | setText =>
    unfold runSetText
    dsimp only
    split
    · exact skips _
    · refine c.bind_part (c.of_reads (.hasNode id _)) fun found => ?_
      cases found with
      | false => exact skips _
      | true =>
        simp only [if_true, setNodeText_eq_commit]
        exact c.commit _
  | setVariable =>
    unfold runSetVariable
    cases a.target with
    | none => exact skips _
    | some t =>
      dsimp only
      split
      · exact skips _
      · simp only [setVariable_eq_commit]
        exact c.commit _
  | showAlert =>
    simp only [showAlert_eq_commit]
    exact c.commit _

theorem runCoerced (c : Couples whole part notify notify' id) (source : Value) (a : Coerced) :
    part (runCoerced notify id source a) (Engine.runCoerced notify' id source a) := by
  have skips (reason : Skip) := c.part_of_whole (c.skip reason)
  cases a with
  | unknown tag => exact skips _
  | malformed tag issues => exact skips _
  | kindless target value =>
    exact c.bind_part (c.of_reads (.evaluatedParts id _ _)) fun _ => skips _
  | action a =>
    exact c.bind_part (c.of_reads (.evaluatedParts id _ _)) fun _ => c.runAction _ _

theorem executeAction (c : Couples whole part notify notify' id) {action other : Value}
    (same : Action.coerce action = Action.coerce other) (source : Value) :
    whole (executeAction notify id action source)
      (Engine.executeAction notify' id other source) := by
  refine c.read .engine fun e d alike => ?_
  rw [alike.isActive, alike.name, same]
  cases d.isActive with
  | false => exact c.log _
  | true => exact c.guarded _ (c.runCoerced _ _)

/-! ## Events -/

theorem copyInput (c : Couples whole part notify notify' id) (g : Gesture) (source data : Value) :
    whole (copyInput notify id g source data) (Engine.copyInput notify' id g source data) := by
  unfold Engine.copyInput
  split
  · refine c.bind (c.ofExcept _) fun carries => ?_
    cases carries with
    | false => exact c.pure _
    | true =>
      refine c.guarded _ (c.bind_part (c.ofExcept _) fun v => ?_)
      simp only [setNodeValue_eq_commit]
      exact c.commit _
  · exact c.pure _

/-- Events that look the same are run side by side. -/
theorem executeEvent (c : Couples whole part notify notify' id) {event other : Value}
    (same : SameEvent event other) (source data : Value) :
    whole (executeEvent notify id event source data)
      (Engine.executeEvent notify' id other source data) := by
  refine c.read .engine fun e d alike => ?_
  rw [alike.isActive, alike.name, same.kind]
  cases d.isActive with
  | false => exact c.log _
  | true =>
    simp only [if_true]
    cases Gesture.ofValue? (other.fieldOf "type") with
    | none => exact c.skip _
    | some g =>
      refine c.bind (c.log _) fun _ => c.bind (c.copyInput _ _ _) fun _ => ?_
      unfold runEventAction
      dsimp only
      rw [same.isNull]
      split
      · exact c.skip _
      · exact c.executeAction same.action _

/-- One event after the other, by induction on the events of both engines: a fault in one does not
keep the next from running. -/
theorem attemptEvents (c : Couples whole part notify notify' id) (g : Gesture) (node data : Value)
    {events others : List Value} (same : List.Forall₂ SameEvent events others) :
    whole (attemptEvents notify id g node data events)
      (Engine.attemptEvents notify' id g node data others) := by
  induction same with
  | nil => exact c.pure ()
  | cons first _ ih =>
    exact c.bind (c.guarded _ (c.part_of_whole (c.executeEvent first _ _))) fun _ => ih

theorem runMatching (c : Couples whole part notify notify' id) (g : Gesture) (node data : Value)
    {events others : List Value} (same : List.Forall₂ SameEvent events others) :
    whole (runMatching notify id g node data events)
      (Engine.runMatching notify' id g node data others) := by
  have due := matching_forall₂ same g
  unfold Engine.runMatching
  rw [due.length_eq]
  exact c.bind (c.attemptEvents g node data due) fun _ => c.bind (c.traceOpen _) fun _ => c.pure _

theorem dispatch (c : Couples whole part notify notify' id) (g : Gesture) (node data : Value) :
    whole (dispatch notify id g node data) (Engine.dispatch notify' id g node data) := by
  refine c.read (.recordOf id _) fun r s same => ?_
  rw [same.isNull]
  cases s.isNull with
  | true => exact c.bind (c.skip _) fun _ => c.pure _
  | false =>
    simp only [Bool.false_eq_true, if_false]
    have rows := same.eventsOf?
    generalize eventsOf? r = events?, eventsOf? s = others? at rows ⊢
    cases rows with
    | none => exact c.bind (c.skip _) fun _ => c.pure _
    | some rows => exact c.runMatching g node data rows

theorem executeNodeEvents (c : Couples whole part notify notify' id) (node kind data : Value) :
    whole (executeNodeEvents notify id node kind data)
      (Engine.executeNodeEvents notify' id node kind data) := by
  refine c.read .engine fun e d alike => ?_
  have ignored : ignoredTrigger e node kind = ignoredTrigger d node kind := by
    simp only [ignoredTrigger, alike.name]
  rw [alike.isActive, ignored]
  cases d.isActive with
  | false => exact c.bind (c.log _) fun _ => c.pure _
  | true =>
    simp only [if_true]
    cases Gesture.ofValue? kind with
    | none => exact c.bind (c.skip _) fun _ => c.pure _
    | some g => exact c.inSpan g node (c.dispatch g node data)

/-! ## Operations -/

/-- An operation that has an effect directly ends as the callback does. -/
theorem perform_part (c : Couples whole part notify notify' id) (op : EngineOp Callback)
    (direct : isDirect op = true) :
    part (perform notify id op) (Engine.perform notify' id op) := by
  cases op with
  | setVariable name value =>
    refine c.part_then _ ?_
    simp only [setVariable_eq_commit]
    exact c.commit _
  | setNodeValue node value =>
    refine c.part_then _ ?_
    simp only [setNodeValue_eq_commit]
    exact c.commit _
  | setNodeText node text =>
    refine c.part_then _ ?_
    simp only [setNodeText_eq_commit]
    exact c.commit _
  | showAlert message =>
    refine c.part_then _ ?_
    simp only [showAlert_eq_commit]
    exact c.commit _
  | _ => cases direct

/-- Every other operation ends in the same way, unless it shows the context. -/
theorem perform (c : Couples whole part notify notify' id) (op : EngineOp Callback)
    (executes : isDirect op = false) (hides : op ≠ .debugInfo) :
    whole (perform notify id op) (Engine.perform notify' id op) := by
  cases op with
  | getVariable name => exact c.bind (c.of_reads (.getVariable id _)) fun _ => c.pure _
  | getNodeValue node => exact c.bind (c.of_reads (.getNodeValue id _)) fun _ => c.pure _
  | nodeValues => exact c.bind (c.of_reads (.nodeValues id)) fun _ => c.pure _
  | evaluate expression => exact c.bind (c.of_reads (.evaluate id _)) fun _ => c.pure _
  | executeAction action source => exact c.bind (c.executeAction rfl _) fun _ => c.pure _
  | executeEvent event source data =>
    exact c.bind (c.executeEvent (.refl event) _ _) fun _ => c.pure _
  | executeNodeEvents node kind data =>
    exact c.bind (c.executeNodeEvents _ _ _) fun _ => c.pure _
  | updateContext changes => exact c.bind (c.updateContext changes) fun _ => c.pure _
  | dispose => exact c.bind c.dispose fun _ => c.pure _
  | debugInfo => exact absurd rfl hides
  | lifecycle =>
    refine c.read .engine fun e d alike => ?_
    rw [alike.lifecycle]
    exact c.pure _
  | isActive =>
    refine c.read .engine fun e d alike => ?_
    rw [alike.isActive]
    exact c.pure _
  | name =>
    refine c.read .engine fun e d alike => ?_
    rw [alike.name]
    exact c.pure _
  | literal =>
    refine c.read .engine fun e d alike => ?_
    unfold Engine.literal
    rw [alike.name, alike.lifecycle]
    exact c.pure _
  | _ => cases executes

end Couples

/-! ## Sequences of calls -/

/-- Calls an engine from outside, one operation after the other, and collects the answers. -/
def performAll (notify : Notify σ) (id : Nat) : List (EngineOp Callback) → Act σ (List Reply)
  | [] => return []
  | op :: ops => do
    let reply ← Act.exchange (.engine id op) (perform notify id op)
    let replies ← performAll notify id ops
    return reply :: replies

theorem succeeds_performAll (notify : Notify σ) (id : Nat) (ops : List (EngineOp Callback)) :
    Act.Succeeds (performAll notify id ops) := by
  induction ops with
  | nil => exact .pure []
  | cons op ops ih => exact .bind (.exchange _ _) fun _ => .bind ih fun _ => .pure _

/-- Calls one after the other maintain what is not about the history if each of them does. -/
theorem maintains_performAll {I : World σ → Prop} (records : ∀ w e, I w → I (w.record e))
    {notify : Notify σ} {ops : List (EngineOp Callback)}
    (each : ∀ op ∈ ops, Act.Maintains I (perform notify id op)) :
    Act.Maintains I (performAll notify id ops) := by
  induction ops with
  | nil => exact .pure []
  | cons op ops ih =>
    exact .bind (.exchange records _ (each op List.mem_cons_self)) fun _ =>
      .bind (ih fun op member => each op (List.mem_cons_of_mem _ member)) fun _ => .pure _

theorem run_performAll_cons (notify : Notify σ) (op : EngineOp Callback)
    (ops : List (EngineOp Callback)) {w u v : World σ} {reply : Reply} {replies : List Reply}
    (first : (Act.exchange (.engine id op) (perform notify id op)).run w = (.ok reply, u))
    (rest : (performAll notify id ops).run u = (.ok replies, v)) :
    (performAll notify id (op :: ops)).run w = (.ok (reply :: replies), v) := by
  unfold performAll
  rw [Act.run_bind_of_ok first, Act.run_bind_of_ok rest]
  rfl

end EventCanvas.Engine
