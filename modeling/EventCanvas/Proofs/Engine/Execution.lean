import EventCanvas.Proofs.Engine.Handling
import EventCanvas.Proofs.Host
import EventCanvas.Proofs.Slot

/-!
# Executing returns

Whatever goes wrong while an action, an event or a dispatch runs is skipped and
reported, and what goes wrong while it is reported is logged.  To say what went
wrong is no further step that could fail, as every fault has a text.  So the operations
that execute something end normally, whatever callbacks do in the meantime.  Two
steps stand outside of the guards: event data are searched for a value before
they are copied, and a record is looked up before it is dispatched on.  Neither
fails on data that are none or a table, or in a table of records.

* `Engine.run_inSpan`: a dispatch is what happens inside its span, but for tracing.
* `Host.executions_return`: executing ends normally, on its own and at every depth
  of every run of a host that puts only tables in the place of tables.
-/

namespace EventCanvas

open Act (Maintains Succeeds)

variable {σ α : Type} {id : Nat}

/-- Event data as hosts pass them: none, or a table. -/
def Value.IsEventData : Value → Prop
  | .null | .object _ => True
  | _ => False

/-! ## Differing by tracing -/

/-- The world after something was sent to the tracer of an engine. -/
def World.sent (w : World σ) (id : Nat) (events : List SpanEvent) : World σ :=
  { w with history := w.history ++ events.map fun e => .observed (.traced id e) }

@[simp] theorem World.sent_nil (w : World σ) (id : Nat) : w.sent id [] = w := by
  simp [World.sent]

@[simp] theorem World.record_sent (w : World σ) (id : Nat) (events : List SpanEvent)
    (e : SpanEvent) :
    (w.sent id events).record (.observed (.traced id e)) = w.sent id (events ++ [e]) := by
  simp [World.sent, World.record]

/-- A world differs from another by what was sent to the tracer of an engine and by the span that
the engine has in progress. -/
structure World.Traced (id : Nat) (w v : World σ) : Prop where
  engines : ∃ span, v.engines = w.engines.modify id fun e => { e with span }
  history : ∃ events : List SpanEvent,
    v.history = w.history ++ events.map fun e => .observed (.traced id e)
  slot : v.slot = w.slot
  log : v.log = w.log
  host : v.host = w.host

theorem World.Traced.engine {w v : World σ} (traced : w.Traced id v) (i : Nat) :
    ∃ span, v.engine i = { w.engine i with span } := by
  obtain ⟨span, engines⟩ := traced.engines
  have same : v.engine i = (w.modifyEngine id fun e => { e with span }).engine i := by
    simp only [World.engine, World.modifyEngine, engines]
  rw [same]
  by_cases hit : id = i
  · subst hit
    by_cases inside : id < w.engines.length
    · exact ⟨span, World.engine_modifyEngine_self _ inside⟩
    · have missing : w.engines[id]? = none := List.getElem?_eq_none (by omega)
      exact ⟨none, by simp [World.engine, World.modifyEngine, missing, Engine.absent]⟩
  · exact ⟨_, World.engine_modifyEngine_of_ne w _ hit⟩

namespace Engine

variable {notify : Notify σ}

theorem run_start (id : Nat) (t : Tracer) (node event : Value) (w : World σ) :
    ∃ span events spans, (t.start id node event).run w =
      (.ok span, World.sent { w with spans } id events) := by
  rcases t with ⟨name, _ | _⟩ | _
  · exact ⟨none, [], w.spans, by rw [World.sent_nil]; rfl⟩
  · let span : Span := ⟨w.spans, "canvasflow." ++ event.message⟩
    let attributes : Fields := [("canvasflow.session", .text name), ("canvasflow.node_id", node),
      ("canvasflow.event_type", event)]
    refine ⟨span, [] ++ [.getTracer "canvasflow" "0.1.0"] ++ [.start span attributes],
      w.spans + 1, ?_⟩
    rw [← World.record_sent, ← World.record_sent, World.sent_nil]
    rfl
  · exact ⟨none, [], w.spans, by rw [World.sent_nil]; rfl⟩

theorem run_finish (id : Nat) (fault : Option Fault) (span : Option Span) (w : World σ) :
    ∃ events, (Tracer.finish id fault span).run w = (.ok (), w.sent id events) := by
  rcases span with _ | span
  · exact ⟨[], by rw [World.sent_nil]; rfl⟩
  · rcases fault with _ | f
    · exact ⟨[.finish span], rfl⟩
    · refine ⟨[] ++ [.setStatus span f.text] ++ [.recordFault span f] ++ [.finish span], ?_⟩
      rw [← World.record_sent, ← World.record_sent, ← World.record_sent, World.sent_nil]
      rfl

/-- What is noted on the span in progress is noted on the one that the tracer adds to. -/
theorem run_traceOpen (id : Nat) (event : Span → SpanEvent) (w : World σ) :
    (traceOpen id event).run w = (.ok (),
      match (w.engine id).tracer.target (w.engine id).span with
      | none => w
      | some span => w.record (.observed (.traced id (event span)))) := by
  unfold traceOpen
  rw [Act.run_bind_of_ok (Act.run_engine id w)]
  unfold Tracer.send
  cases (w.engine id).tracer.target (w.engine id).span <;> rfl

/-- The fault in which a step ended, if it did. -/
def faultIn? : Except Fault α → Option Fault
  | .ok _ => none
  | .error f => some f

/-- A step inside the span of a dispatch begins where that span is the one in progress.  After it
the span from before is so again, and then the other one is finished. -/
theorem run_inSpan_of_start {g : Gesture} {node : Value} {x : Act σ α} {w u : World σ}
    {span : Option Span} {first last : World σ}
    (starts : ((w.engine id).tracer.start id node (.text g.name)).run w = (.ok span, u))
    (begins : first = u.modifyEngine id fun e => { e with span })
    (ends : last = (x.run first).2.modifyEngine id fun e => { e with span := (w.engine id).span }) :
    (inSpan id g node x).run w =
      ((x.run first).1, ((Tracer.finish id (faultIn? (x.run first).1) span).run last).2) := by
  have opened : (setSpan id span).run u = (.ok (), first) := by rw [begins]; rfl
  have closed : (setSpan id (w.engine id).span).run (x.run first).2 = (.ok (), last) := by
    rw [ends]
    rfl
  obtain ⟨closing, finished⟩ := run_finish id (faultIn? (x.run first).1) span last
  unfold inSpan
  rw [Act.run_bind_of_ok (Act.run_engine id w), Act.run_bind_of_ok starts,
    Act.run_bind_of_ok opened, Act.run_bind_of_ok (Act.run_attempt x first),
    Act.run_bind_of_ok closed, finished]
  cases outcome : (x.run first).1 with
  | ok a =>
    rw [outcome] at finished
    exact Act.run_bind_of_ok finished _
  | error f =>
    rw [outcome] at finished
    exact Act.run_bind_of_ok finished _

/-- A step inside the span of a dispatch does what it does outside, but for tracing. -/
theorem run_inSpan (id : Nat) (g : Gesture) (node : Value) (x : Act σ α) (w : World σ) :
    ∃ u, w.Traced id u ∧ ∃ v, (inSpan id g node x).run w = ((x.run u).1, v) ∧
      (x.run u).2.Traced id v := by
  obtain ⟨span, opening, spans, starts⟩ :=
    run_start id (w.engine id).tracer node (.text g.name) w
  let u := (World.sent { w with spans } id opening).modifyEngine id fun e => { e with span }
  obtain ⟨closing, finished⟩ := run_finish id (faultIn? (x.run u).1) span
    ((x.run u).2.modifyEngine id fun e => { e with span := (w.engine id).span })
  refine ⟨u, ⟨⟨span, rfl⟩, ⟨opening, rfl⟩, rfl, rfl, rfl⟩, _,
    run_inSpan_of_start starts rfl rfl, ?_⟩
  rw [finished]
  exact ⟨⟨_, rfl⟩, ⟨closing, rfl⟩, rfl, rfl, rfl⟩

/-- On an active engine the events of a known kind are dispatched inside a span. -/
theorem run_executeNodeEvents_of_active (notify : Notify σ) {w : World σ}
    (active : (w.engine id).isActive = true) {kind : Value} {g : Gesture}
    (known : Gesture.ofValue? kind = some g) (node data : Value) :
    (executeNodeEvents notify id node kind data).run w =
      (inSpan id g node (dispatch notify id g node data)).run w := by
  unfold executeNodeEvents
  rw [Act.run_bind_of_ok (Act.run_engine id w), active, known]
  rfl

/-- A call that triggers a node is in the history, then what came of it, then its answer. -/
theorem exchange_executeNodeEvents {node kind data : Value} {outcome : Except Fault Nat}
    {w v : World σ} (run : (executeNodeEvents notify id node kind data).run
      (w.record (.called (.engine id (.executeNodeEvents node kind data)))) = (outcome, v)) :
    ((Act.exchange (.engine id (.executeNodeEvents node kind data))
      (perform notify id (.executeNodeEvents node kind data))).run w).2 =
        v.record (.answered (.engine id (.executeNodeEvents node kind data))
          (Act.replyTo (outcome.map fun n : Nat => .value (.int n)))) := by
  have performed : (perform notify id (.executeNodeEvents node kind data)).run
      (w.record (.called (.engine id (.executeNodeEvents node kind data)))) =
        (outcome.map fun n : Nat => .value (.int n), v) := by
    show (executeNodeEvents notify id node kind data >>= fun n : Nat =>
      (pure (.value (.int n)) : Act σ Reply)).run _ = _
    rw [Act.run_bind, run]
    cases outcome <;> rfl
  rw [Act.run_exchange, performed]

/-! ## Executing succeeds -/

/-- What is guarded may fail in any way. -/
theorem succeeds_guarded (notify : Notify σ) (id : Nat) (x : Act σ Unit) (onFault : Fault → Skip) :
    Succeeds (guarded notify id x onFault) :=
  .tryCatch x fun f => succeeds_skip notify id (onFault f)

theorem succeeds_executeAction (notify : Notify σ) (id : Nat) (action source : Value) :
    Succeeds (executeAction notify id action source) := by
  refine .bind (.engine id) fun e => ?_
  cases e.isActive with
  | false => exact .log _
  | true => exact succeeds_guarded notify id _ _

theorem carriesValue_of_isEventData {data : Value} (given : data.IsEventData) :
    ∃ carries, carriesValue data = .ok carries := by
  cases data with
  | null => exact ⟨false, rfl⟩
  | object fields => exact ⟨_, rfl⟩
  | _ => exact given.elim

theorem succeeds_copyInput (notify : Notify σ) (id : Nat) (g : Gesture) (source : Value)
    {data : Value} (given : data.IsEventData) : Succeeds (copyInput notify id g source data) := by
  obtain ⟨carries, found⟩ := carriesValue_of_isEventData given
  unfold copyInput
  split
  · rw [found]
    refine .bind (.pure carries) fun carries => ?_
    cases carries with
    | false => exact .pure ()
    | true => exact succeeds_guarded notify id _ _
  · exact .pure ()

theorem succeeds_executeEvent (notify : Notify σ) (id : Nat) (event source : Value) {data : Value}
    (given : data.IsEventData) : Succeeds (executeEvent notify id event source data) := by
  refine .bind (.engine id) fun e => ?_
  cases e.isActive with
  | false => exact .log _
  | true =>
    simp only [if_true]
    cases Gesture.ofValue? (event.fieldOf "type") with
    | none => exact succeeds_skip notify id _
    | some g =>
      refine .bind (.log _) fun _ => .bind (succeeds_copyInput notify id g source given) fun _ => ?_
      unfold runEventAction
      dsimp only
      split
      · exact succeeds_skip notify id _
      · exact succeeds_executeAction notify id _ _

/-- Running events one after the other succeeds, also where one of them fails. -/
theorem succeeds_attemptEvents (notify : Notify σ) (id : Nat) (g : Gesture) (node data : Value)
    (events : List Value) : Succeeds (attemptEvents notify id g node data events) := by
  induction events with
  | nil => exact .pure ()
  | cons event events ih => exact .bind (succeeds_guarded notify id _ _) fun _ => ih

theorem succeeds_runMatching (notify : Notify σ) (id : Nat) (g : Gesture) (node data : Value)
    (events : List Value) : Succeeds (runMatching notify id g node data events) :=
  .bind (succeeds_attemptEvents notify id g node data _) fun _ =>
    .bind (succeeds_traceOpen _) fun _ => .pure _

/-- In a table of records everything that can be a key can be looked up. -/
theorem run_recordOf_eq {w : World σ} (tables : (w.engine id).context.misfits.nodes = none)
    (node : Value) : (recordOf id node).run w =
      (node.asKey.map fun key => (Entries.lookup key (w.engine id).context.nodes).getD .null,
        w) := by
  unfold recordOf find
  rw [Act.run_bind_of_ok (Act.run_engine id w), tables]
  cases node.asKey <;> rfl

/-- In a table of records every text can be looked up. -/
theorem run_recordOf {w : World σ} (tables : (w.engine id).context.misfits.nodes = none)
    (node : String) :
    (recordOf id (.text node)).run w =
      (.ok (Effect.recordAt (w.engine id).context (.text node)), w) :=
  run_recordOf_eq tables (.text node)

theorem run_dispatch_ok (notify : Notify σ) {w : World σ}
    (tables : (w.engine id).context.misfits.nodes = none) (g : Gesture) (node : String)
    (data : Value) : ∃ n v, (dispatch notify id g (.text node) data).run w = (.ok n, v) := by
  unfold dispatch
  rw [Act.run_bind_of_ok (run_recordOf tables node)]
  have skips (s : Skip) : Succeeds (do skip notify id s; return 0 : Act σ Nat) :=
    .bind (succeeds_skip notify id s) fun _ => .pure 0
  cases (Effect.recordAt (w.engine id).context (.text node)).isNull with
  | true => exact skips _ w
  | false =>
    simp only [Bool.false_eq_true, if_false]
    cases eventsOf? (Effect.recordAt (w.engine id).context (.text node)) with
    | none => exact skips _ w
    | some events => exact succeeds_runMatching notify id g _ data events w

theorem run_executeNodeEvents_ok (notify : Notify σ) {w : World σ}
    (tables : (w.engine id).context.misfits = .empty) (node : String) (kind data : Value) :
    ∃ n v, (executeNodeEvents notify id (.text node) kind data).run w = (.ok n, v) := by
  unfold executeNodeEvents
  rw [Act.run_bind_of_ok (Act.run_engine id w)]
  cases (w.engine id).isActive with
  | false => exact Succeeds.bind (.log _) (fun _ => .pure 0) w
  | true =>
    simp only [if_true]
    cases Gesture.ofValue? kind with
    | none => exact Succeeds.bind (succeeds_skip notify id _) (fun _ => .pure 0) w
    | some g =>
      obtain ⟨u, opened, v, run, -⟩ :=
        run_inSpan id g (.text node) (dispatch notify id g (.text node) data) w
      obtain ⟨span, same⟩ := opened.engine id
      have tables : (u.engine id).context.misfits.nodes = none := by
        rw [same, tables]
        rfl
      obtain ⟨n, _, dispatched⟩ := run_dispatch_ok notify tables g node data
      rw [dispatched] at run
      exact ⟨n, v, run⟩

end Engine

/-! ## Tables stay tables -/

/-- A change that puts nothing but a table in the place of a table. -/
def ContextChange.KeepsTables {β : Type} : ContextChange β → Prop
  | .oddVars _ | .oddNodes _ => False
  | _ => True

/-- A call that puts nothing but tables in the place of tables. -/
def HostOp.KeepsTables : HostOp → Prop
  | .engine _ (.updateContext changes) => ∀ change ∈ changes, change.KeepsTables
  | .slot (.install c) => c.misfits = .empty
  | .slot (.mount c) => c.misfits = .empty
  | _ => True

/-- The contexts of all engines are made of tables. -/
def World.HasTables (w : World σ) : Prop := ∀ i, (w.engine i).context.misfits = .empty

theorem ContextChange.misfits_apply {β : Type} {c : Context β} {change : ContextChange β}
    (keeps : change.KeepsTables) (tables : c.misfits = .empty) :
    (change.apply c).misfits = .empty := by
  cases change with
  | oddVars v => exact keeps.elim
  | oddNodes v => exact keeps.elim
  | _ => simp [apply, tables, Misfits.empty]

theorem ContextChange.misfits_foldl_apply {β : Type} {changes : List (ContextChange β)}
    (keeps : ∀ change ∈ changes, change.KeepsTables) {c : Context β} (tables : c.misfits = .empty) :
    (changes.foldl apply c).misfits = .empty := by
  induction changes generalizing c with
  | nil => exact tables
  | cons change changes ih =>
    have here := misfits_apply (keeps change List.mem_cons_self) tables
    exact ih (fun change member => keeps change (List.mem_cons_of_mem _ member)) here

namespace World.HasTables

variable {w v : World σ}

theorem of_engines_eq (tables : w.HasTables) (same : v.engines = w.engines) : v.HasTables := by
  intro i
  have engine : v.engine i = w.engine i := by simp only [World.engine, same]
  rw [engine]
  exact tables i

theorem modifyEngine (tables : w.HasTables) {f : Engine → Engine}
    (keeps : (f (w.engine id)).context.misfits = .empty) : (w.modifyEngine id f).HasTables := by
  intro i
  rcases w.engine_modifyEngine_eq_or id i f with same | ⟨rfl, same⟩
  · rw [same]
    exact tables i
  · rw [same]
    exact keeps

theorem dispose (tables : w.HasTables) (id : Nat) : (w.dispose id).HasTables := by
  refine World.dispose_of_holds tables id fun active => ?_
  have released : (w.engine id).dispose.context.misfits = .empty := by
    rw [Engine.dispose_of_isActive active]
    rfl
  exact (tables.modifyEngine released).of_engines_eq rfl

theorem created (tables : w.HasTables) {c : Context Callback} (whole : c.misfits = .empty) :
    (Slot.created w c).HasTables := by
  intro i
  by_cases hit : i = w.engines.length
  · rw [hit, Slot.engine_created_self]
    exact whole
  · rw [Slot.engine_created_of_ne w c hit]
    exact tables i

end World.HasTables

/-! ## What executing answers -/

/-- What an operation that executes something answers: nothing, or how many events matched. -/
def HostOp.Returns : HostOp → Reply → Prop
  | .engine _ (.executeAction ..), reply => reply = .nothing
  | .engine _ (.executeEvent _ _ data), reply => data.IsEventData → reply = .nothing
  | .engine _ (.executeNodeEvents (.text _) _ _), reply => ∃ n : Nat, reply = .value (.int n)
  | _, _ => True

/-- In a history, what executed something was answered. -/
def Event.Returned : Event → Prop
  | .answered op reply => op.Returns reply
  | _ => True

/-- Executing on an engine with tables is answered, whatever callbacks do. -/
theorem Host.returns_perform (notify : Notify σ) {w : World σ} (tables : w.HasTables)
    (op : HostOp) : op.Returns (Act.replyTo ((perform notify op).run w).1) := by
  cases op with
  | slot op => cases op <;> trivial
  | engine id op =>
    cases op with
    | executeAction action source =>
      obtain ⟨v, run⟩ := (Engine.succeeds_executeAction notify id action source).run w
      rw [show (perform notify (.engine id (.executeAction action source))).run w = _ from
        Act.run_bind_of_ok run _]
      rfl
    | executeEvent event source data =>
      intro given
      obtain ⟨v, run⟩ := (Engine.succeeds_executeEvent notify id event source given).run w
      rw [show (perform notify (.engine id (.executeEvent event source data))).run w = _ from
        Act.run_bind_of_ok run _]
      rfl
    | executeNodeEvents node kind data =>
      cases node with
      | text node =>
        obtain ⟨n, v, run⟩ := Engine.run_executeNodeEvents_ok notify (tables id) node kind data
        rw [show (perform notify (.engine id (.executeNodeEvents (.text node) kind data))).run w = _
          from Act.run_bind_of_ok run _]
        exact ⟨n, rfl⟩
      | _ => trivial
    | _ => trivial

/-! ## Every step keeps tables and answers -/

/-- The engines have tables, and since a moment everything executed was answered. -/
structure Returning (since : List Event) (w : World σ) : Prop where
  tables : w.HasTables
  answers : ∃ h, w.history = since ++ h ∧ ∀ e ∈ h, e.Returned

namespace Returning

variable {since : List Event} {w v : World σ}

theorem extend (returning : Returning since w) (tables : v.HasTables) (new : List Event)
    (history : v.history = w.history ++ new) (returned : ∀ e ∈ new, e.Returned) :
    Returning since v := by
  obtain ⟨h, since_h, answers⟩ := returning.answers
  refine ⟨tables, h ++ new, by rw [history, since_h, List.append_assoc], fun e member => ?_⟩
  rcases List.mem_append.1 member with member | member
  · exact answers e member
  · exact returned e member

theorem of_eq (returning : Returning since w) (engines : v.engines = w.engines)
    (history : v.history = w.history) : Returning since v :=
  returning.extend (returning.tables.of_engines_eq engines) []
    (by rw [history, List.append_nil]) (by simp)

theorem record (returning : Returning since w) {e : Event} (returned : e.Returned) :
    Returning since (w.record e) :=
  returning.extend (returning.tables.of_engines_eq rfl) [e] rfl (by simpa using returned)

theorem modifyEngine (returning : Returning since w) {f : Engine → Engine}
    (keeps : (f (w.engine id)).context.misfits = .empty) :
    Returning since (w.modifyEngine id f) :=
  returning.extend (returning.tables.modifyEngine keeps) [] (List.append_nil _).symm (by simp)

theorem dispose (returning : Returning since w) (id : Nat) : Returning since (w.dispose id) := by
  have tables := returning.tables.dispose id
  refine World.dispose_of_holds returning id fun active => ?_
  rw [World.dispose_of_isActive active] at tables
  exact returning.extend tables [.disposed id] rfl (by simp [Event.Returned])

section

variable {notify : Notify σ}
  (callbacks : ∀ callback notice, Maintains (Returning since) (notify callback notice))

include callbacks

theorem maintains_tell (id : Nat) (notice : Notice) :
    Maintains (Returning since) (Engine.tell notify id notice) :=
  Engine.maintains_tell notice (fun _ _ returning _ => returning.record trivial)
    fun callback => callbacks callback notice

open Engine in
theorem supports (id : Nat) : Supports (Returning since) notify id where
  log _ _ returning := returning.of_eq rfl rfl
  traced _ _ returning := returning.record trivial
  freshSpan _ returning := returning.of_eq rfl rfl
  setSpan _ _ returning := returning.modifyEngine (returning.tables id)
  commit x := maintains_commit x fun w returning _ _ => by
    refine maintains_tell callbacks id x.notice _ (returning.modifyEngine ?_)
    rw [Effect.misfits_write]
    exact returning.tables id
  report _ := maintains_tell callbacks id _

/-- A call that keeps tables keeps the invariant if callbacks do. -/
theorem maintains_exchange (op : HostOp) (keeps : op.KeepsTables) :
    Maintains (Returning since) (Act.exchange op (Host.perform notify op)) := by
  intro w returning
  have called : Returning since (w.record (.called op)) := returning.record trivial
  have performed : Maintains (Returning since) (Host.perform notify op) := by
    cases op with
    | engine id op =>
      refine (supports callbacks id).perform op (fun _ _ returning => returning.dispose id) ?_
      rintro changes rfl
      refine Engine.maintains_updateContext changes fun w returning _ => ?_
      exact returning.modifyEngine (ContextChange.misfits_foldl_apply keeps (returning.tables id))
    | slot op =>
      refine Slot.maintains_perform (fun _ _ returning => returning.of_eq rfl rfl)
        (fun id _ returning => returning.dispose id) (fun _ returning => returning.of_eq rfl rfl)
        op fun c creates w returning => ?_
      have whole : c.misfits = .empty := by
        rcases creates with rfl | rfl
        · exact keeps
        · exact keeps
      exact returning.extend (returning.tables.created whole) [.created w.engines.length] rfl
        (by simp [Event.Returned])
  rw [Act.run_exchange]
  exact (performed _ called).record (Host.returns_perform notify called.tables op)

end

theorem leaves (since : List Event) : Host.Leaves (Returning since : World σ → Prop) where
  write _ _ returning := returning.of_eq rfl rfl
  log _ _ returning := returning.of_eq rfl rfl
  note _ _ returning := returning.record trivial

end Returning

/-! ## Every run -/

namespace Host

/-- Executing never fails.  An action is run whatever it is and wherever it comes from, an event
whatever it is if event data are passed with it as hosts pass them, and the events of a node for any
kind of event and any data, on an engine whose tables are tables; callbacks may do anything in the
meantime.  The same goes for every such call inside a run of a host, however deep callbacks nest, as
long as nobody puts anything but tables in the place of tables. -/
theorem executions_return (host : Host σ) (depth : Nat) (p : Program σ α) (w : World σ) :
    (∀ (notify : Notify σ) (id : Nat), (w.engine id).context.misfits = .empty →
      (∀ action source, ∃ v,
        (Engine.executeAction notify id action source).run w = (.ok (), v)) ∧
      (∀ event source data, data.IsEventData → ∃ v,
        (Engine.executeEvent notify id event source data).run w = (.ok (), v)) ∧
      ∀ node kind data, ∃ n v,
        (Engine.executeNodeEvents notify id (.text node) kind data).run w = (.ok n, v)) ∧
    (w.HasTables → host.CallsOnly HostOp.KeepsTables → p.CallsOnly HostOp.KeepsTables →
      ((host.run depth p).run w).2.HasTables ∧
      ∃ h, ((host.run depth p).run w).2.history = w.history ++ h ∧ ∀ e ∈ h, e.Returned) := by
  refine ⟨fun notify id tables => ⟨fun action source => ?_, fun event source data given => ?_,
    fun node kind data => ?_⟩, fun tables keeps allowed => ?_⟩
  · exact (Engine.succeeds_executeAction notify id action source).run w
  · exact (Engine.succeeds_executeEvent notify id event source given).run w
  · exact Engine.run_executeNodeEvents_ok notify tables node kind data
  · have start : Returning w.history w :=
      ⟨tables, [], (List.append_nil _).symm, fun _ member => nomatch member⟩
    have callbacks := maintains_notify (Returning.leaves w.history)
      (fun _ told op => Returning.maintains_exchange told op) keeps depth
    have ended : Returning w.history ((host.run depth p).run w).2 :=
      Program.maintains (Returning.leaves w.history)
        (fun op => Returning.maintains_exchange callbacks op) p allowed w start
    exact ⟨ended.tables, ended.answers⟩

/-- A host that takes the records away and disposes the engine when an alert is shown, and then
fails, with event data of the wrong kind. -/
theorem executions_return_disposing :
    let host : Host Unit := ⟨fun _ _ =>
      .call (.engine 0 (.updateContext [.nodes []])) fun _ =>
        .call (.engine 0 .dispose) fun _ => .fail (.failure "host is gone")⟩
    let alert : Value := .object [("type", .text "showAlert"), ("value", .text "hello")]
    let record : Value := .object [("events", .list
      [.object [("type", .text "onClick"), ("action", alert)], .int 7])]
    let start := Slot.created (World.initial ⟨"preview", .initial, none⟩ ())
      (.ofTables [] [(.text "n1", record)] (Hooks.all (some ⟨"host", 0⟩)))
    let p : Program Unit Reply :=
      .ask (.engine 0 (.executeNodeEvents (.text "n1") (.text "onClick") (.int 3)))
    start.HasTables ∧ host.CallsOnly HostOp.KeepsTables ∧ p.CallsOnly HostOp.KeepsTables ∧
    (∃ n v, (Engine.executeNodeEvents (host.notify 1) 0 (.text "n1") (.text "onClick")
      (.int 3)).run start = (.ok n, v)) ∧
    ∃ h, ((host.run 1 p).run start).2.history = start.history ++ h ∧ ∀ e ∈ h, e.Returned := by
  intro host alert record start p
  have none : (World.initial ⟨"preview", .initial, none⟩ ()).HasTables := fun _ => rfl
  have tables : start.HasTables := none.created rfl
  have keeps : host.CallsOnly HostOp.KeepsTables := by
    refine fun _ _ => ⟨fun change member => ?_, fun _ => ⟨trivial, fun _ => trivial⟩⟩
    rw [List.mem_singleton.1 member]
    trivial
  have allowed : p.CallsOnly HostOp.KeepsTables := ⟨trivial, fun _ => trivial⟩
  obtain ⟨executes, runs⟩ := executions_return host 1 p start
  obtain ⟨-, -, triggers⟩ := executes (host.notify 1) 0 (tables 0)
  obtain ⟨-, answered⟩ := runs tables keeps allowed
  exact ⟨tables, keeps, allowed, triggers "n1" (.text "onClick") (.int 3), answered⟩

end Host

end EventCanvas
