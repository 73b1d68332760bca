import EventCanvas.Proofs.Engine.Reaction

/-!
# Running events that are rewritten at their turn

A signal makes an engine run the matching events of a node.  A `Rewriting` says what
is to be run in the place of an event, given the context that its action would find:
with the events before it run, and with the value copied that comes with it.

* `Signal.run`: what an engine does on a signal.
* `Signal.runAs`: the same, with each event rewritten at its turn.
* `Signal.run_runAs`: on a signal an engine has the effects that are computed for it,
  and answers how many events matched.
* `Running.alike_runAs`: two engines that would have the same effects on every signal
  cannot be told apart by what they do on signals.
-/

namespace EventCanvas

open Act (Succeeds)

variable {σ α β : Type} {id : Nat}

/-- Something that happened on the canvas: to which node, of which kind, and with which data. -/
structure Signal where
  node : String
  kind : Value
  data : Value

/-- What is run in the place of an event, in the context that its action would find.  The kind of
the event stays. -/
structure Rewriting where
  event : Context Callback → Value → Value
  fieldOf_type : ∀ c e, (event c e).fieldOf "type" = e.fieldOf "type"

/-- The rewriting that leaves every event as it is. -/
def Rewriting.none : Rewriting := ⟨fun _ e => e, fun _ _ => rfl⟩

namespace Engine

/-! ## Running with a rewriting -/

/-- Runs events one after the other, each rewritten in the context that its action would find. -/
def attemptEventsAs (ρ : Rewriting) (notify : Notify σ) (id : Nat) (g : Gesture) (node : String)
    (data : Value) : List Value → Act σ Unit
  | [] => pure ()
  | event :: events => do
    let e ← Act.engine id
    attemptEvent notify id g (.text node) data (ρ.event (mirrored e.context g node data) event)
    attemptEventsAs ρ notify id g node data events

/-- Runs the events of one kind out of a row, each rewritten at its turn, and says how many there
were. -/
def runMatchingAs (ρ : Rewriting) (notify : Notify σ) (id : Nat) (g : Gesture) (node : String)
    (data : Value) (events : List Value) : Act σ Nat := do
  attemptEventsAs ρ notify id g node data (matching g events)
  traceOpen id (Tracer.matched (.int (matching g events).length))
  return (matching g events).length

/-- Runs the events of one kind of a node, each rewritten at its turn. -/
def dispatchAs (ρ : Rewriting) (notify : Notify σ) (id : Nat) (g : Gesture) (node : String)
    (data : Value) : Act σ Nat := do
  let record ← recordOf id (.text node)
  if record.isNull then
    skip notify id (unknownNode g (.text node))
    return 0
  else
    match eventsOf? record with
    | none =>
      skip notify id (eventsNoList (.text node))
      return 0
    | some events => runMatchingAs ρ notify id g node data events

end Engine

open Engine

/-- What an engine does on a signal. -/
def Signal.run (notify : Notify σ) (id : Nat) (s : Signal) : Act σ Nat :=
  executeNodeEvents notify id (.text s.node) s.kind s.data

/-- What an engine does on a signal if it rewrites each event at its turn. -/
def Signal.runAs (ρ : Rewriting) (notify : Notify σ) (id : Nat) (s : Signal) : Act σ Nat := do
  let e ← Act.engine id
  if e.isActive then
    match Gesture.ofValue? s.kind with
    | none =>
      skip notify id (unknownTrigger (.text s.node) s.kind)
      return 0
    | some g => inSpan id g (.text s.node) (dispatchAs ρ notify id g s.node s.data)
  else
    Act.log (ignoredTrigger e (.text s.node) s.kind)
    return 0

theorem Engine.attemptEventsAs_none (notify : Notify σ) (id : Nat) (g : Gesture) (node : String)
    (data : Value) (events : List Value) :
    attemptEventsAs .none notify id g node data events =
      attemptEvents notify id g (.text node) data events := by
  induction events with
  | nil => rfl
  | cons event events ih =>
    rw [attemptEventsAs, attemptEvents, ih]
    rfl

theorem Engine.dispatchAs_none (notify : Notify σ) (id : Nat) (g : Gesture) (node : String)
    (data : Value) :
    dispatchAs .none notify id g node data = dispatch notify id g (.text node) data := by
  have runs (events : List Value) : runMatchingAs .none notify id g node data events =
      runMatching notify id g (.text node) data events := by
    unfold runMatchingAs runMatching
    rw [attemptEventsAs_none]
  unfold dispatchAs dispatch
  refine bind_congr fun record => ?_
  cases record.isNull with
  | true => rfl
  | false =>
    cases eventsOf? record with
    | none => rfl
    | some events => exact runs events

/-- An engine that leaves every event as it is does what engines do. -/
theorem Signal.runAs_none : (Signal.runAs .none : Notify σ → Nat → Signal → Act σ Nat) =
    Signal.run := by
  funext notify id s
  unfold Signal.runAs Signal.run executeNodeEvents
  refine bind_congr fun e => ?_
  cases e.isActive with
  | false => rfl
  | true =>
    cases Gesture.ofValue? s.kind with
    | none => rfl
    | some g => exact congrArg (inSpan id g (.text s.node)) (dispatchAs_none notify id g _ _)

theorem Engine.succeeds_attemptEventsAs (ρ : Rewriting) (notify : Notify σ) (id : Nat) (g : Gesture)
    (node : String) (data : Value) (events : List Value) :
    Succeeds (attemptEventsAs ρ notify id g node data events) := by
  induction events with
  | nil => exact .pure ()
  | cons event events ih =>
    exact .bind (.engine id) fun _ => .bind (succeeds_guarded notify id _ _) fun _ => ih

/-! ## The effects of a signal -/

/-- The events of one kind that a context has for a node. -/
def Engine.due (c : Context Callback) (g : Gesture) (node : String) : List Value :=
  matching g ((eventsOf? (Engine.Effect.recordAt c (.text node))).getD [])

/-- The effects of events that run one after the other, each rewritten at its turn. -/
def Engine.eventsEffects (ρ : Rewriting) (s : EngineSettings) (g : Gesture) (node : String)
    (data : Value) : Context Callback → List Value → List Engine.Effect
  | _, [] => []
  | c, event :: events =>
    let xs := eventEffects s c g node data (ρ.event (mirrored c g node data) event)
    xs ++ eventsEffects ρ s g node data (Engine.Effect.writeAll c xs) events

namespace Signal

/-- The events that a signal makes an engine with a context run. -/
def due (c : Context Callback) (s : Signal) : List Value :=
  match Gesture.ofValue? s.kind with
  | none => []
  | some g => Engine.due c g s.node

/-- The effects of a signal. -/
def effects (ρ : Rewriting) (settings : EngineSettings) (c : Context Callback) (s : Signal) :
    List Engine.Effect :=
  match Gesture.ofValue? s.kind with
  | none => []
  | some g => eventsEffects ρ settings g s.node s.data c (Engine.due c g s.node)

end Signal

section

variable {notify : Notify σ} (spares : notify.Spares id) {w : World σ}
  (active : (w.engine id).isActive = true)
  (tables : (w.engine id).context.misfits.nodes = none)

include spares active tables

/-- Events that run one after the other have the effects computed for them, by induction on the
events: each finds the context that those before it left. -/
theorem Engine.gains_attemptEventsAs (ρ : Rewriting) {g : Gesture} (node : String) (data : Value)
    {events : List Value} (kinds : ∀ event ∈ events, event.fieldOf "type" = .text g.name) :
    Gains id w ((attemptEventsAs ρ notify id g node data events).run w).2
      (eventsEffects ρ (w.engine id).settings g node data (w.engine id).context events) := by
  induction events generalizing w with
  | nil => exact .refl w
  | cons event events ih =>
    have kind := (ρ.fieldOf_type (mirrored (w.engine id).context g node data) event).trans
      (kinds event List.mem_cons_self)
    rw [attemptEventsAs, Act.run_bind_of_ok (Act.run_engine id w)]
    refine Gains.bind (succeeds_guarded notify id _ _)
      (gains_attemptEvent spares active tables node data kind) fun v gains => ?_
    -- the events left are rewritten in what this one and those before it left
    have rest := ih (gains.active active) (gains.tables tables) fun event member =>
      kinds event (List.mem_cons_of_mem _ member)
    rwa [gains.settings_eq, gains.context_eq] at rest

theorem Engine.run_runMatchingAs (ρ : Rewriting) (g : Gesture) (node : String) (data : Value)
    (events : List Value) :
    ∃ v, (runMatchingAs ρ notify id g node data events).run w =
        (.ok (matching g events).length, v) ∧
      Gains id w v (eventsEffects ρ (w.engine id).settings g node data (w.engine id).context
        (matching g events)) := by
  have kinds : ∀ event ∈ matching g events, event.fieldOf "type" = .text g.name :=
    fun event member => (mem_matching.1 member).2
  have succeeds := succeeds_attemptEventsAs ρ notify id g node data (matching g events)
  obtain ⟨u, run, gains⟩ := Gains.run_of_succeeds succeeds
    (gains_attemptEventsAs spares active tables ρ node data kinds)
  obtain ⟨sent, counted⟩ := sent_traceOpen id (Tracer.matched (.int (matching g events).length)) u
  refine ⟨u.sent id sent, ?_, gains.trans_nil (.of_eq rfl (u.told_sent id sent id))⟩
  unfold runMatchingAs
  rw [Act.run_bind_of_ok run, Act.run_bind_of_ok counted]
  rfl

theorem Engine.run_dispatchAs (ρ : Rewriting) (g : Gesture) (node : String) (data : Value) :
    ∃ v, (dispatchAs ρ notify id g node data).run w =
        (.ok (due (w.engine id).context g node).length, v) ∧
      Gains id w v (eventsEffects ρ (w.engine id).settings g node data (w.engine id).context
        (due (w.engine id).context g node)) := by
  have skips (s : Skip) : ∃ v, (do skip notify id s; return 0 : Act σ Nat).run w = (.ok 0, v) ∧
      Gains id w v [] := by
    obtain ⟨v, run, gains⟩ := Gains.run_of_succeeds (succeeds_skip notify id s)
      (gains_skip spares s w)
    exact ⟨v, Act.run_bind_of_ok run _, gains⟩
  unfold dispatchAs due
  rw [Act.run_bind_of_ok (run_recordOf tables node)]
  generalize Engine.Effect.recordAt (w.engine id).context (.text node) = record
  cases absent : record.isNull with
  | true =>
    obtain rfl : record = .null := by
      cases record with
      | null => rfl
      | _ => cases absent
    exact skips _
  | false =>
    cases row : eventsOf? record with
    | none => exact skips _
    | some events => exact run_runMatchingAs spares active tables ρ g node data events

theorem Signal.run_runAs (ρ : Rewriting) (s : Signal) :
    ∃ v, (s.runAs ρ notify id).run w = (.ok (s.due (w.engine id).context).length, v) ∧
      Gains id w v (s.effects ρ (w.engine id).settings (w.engine id).context) := by
  unfold Signal.runAs Signal.due Signal.effects
  rw [Act.run_bind_of_ok (Act.run_engine id w), active]
  cases Gesture.ofValue? s.kind with
  | none =>
    obtain ⟨v, run, gains⟩ := Gains.run_of_succeeds (succeeds_skip notify id _)
      (gains_skip spares (unknownTrigger (.text s.node) s.kind) w)
    exact ⟨v, Act.run_bind_of_ok run _, gains⟩
  | some g =>
    obtain ⟨u, opened, v, run, closed⟩ :=
      run_inSpan id g (.text s.node) (dispatchAs ρ notify id g s.node s.data) w
    have opened : Gains id w u [] := .of_traced opened
    have same : (u.engine id).context = (w.engine id).context := opened.context_eq
    obtain ⟨last, dispatched, gains⟩ := run_dispatchAs spares (opened.active active)
      (opened.tables tables) ρ g s.node s.data
    rw [dispatched] at run closed
    rw [opened.settings_eq, same] at gains
    rw [same] at run
    exact ⟨v, run, (opened.trans gains).trans_nil (.of_traced closed)⟩

end

/-! ## Runs that look alike -/

/-- An engine is active, with the given settings and the given context. -/
structure Running (id : Nat) (s : EngineSettings) (c : Context Callback) (w : World σ) : Prop where
  active : (w.engine id).isActive = true
  settings : (w.engine id).settings = s
  context : (w.engine id).context = c

/-- Two steps look alike from an engine: both end well and with the same answer, the engine has the
same context after both, and both told the host of the same effects by the same callbacks. -/
def Alike {τ : Type} (id : Nat) (x : Act σ α) (w : World σ) (y : Act τ α) (v : World τ) : Prop :=
  ∃ a w' v', x.run w = (.ok a, w') ∧ y.run v = (.ok a, v') ∧
    (w'.engine id).context = (v'.engine id).context ∧
    ∃ news, Engine.effects id w' = Engine.effects id w ++ news ∧
      Engine.effects id v' = Engine.effects id v ++ news

theorem Alike.pure {τ : Type} {w : World σ} {v : World τ}
    (same : (w.engine id).context = (v.engine id).context) (a : α) :
    Alike id (Pure.pure a : Act σ α) w (Pure.pure a : Act τ α) v :=
  ⟨a, w, v, rfl, rfl, same, [], (List.append_nil _).symm, (List.append_nil _).symm⟩

/-- Steps that look alike, and after them steps that look alike. -/
theorem Alike.bind {τ : Type} {x : Act σ α} {y : Act τ α} {k : α → Act σ β} {l : α → Act τ β}
    {w w' : World σ} {v v' : World τ} {a : α} {news : List (Callback × Notice)}
    (left : x.run w = (.ok a, w')) (right : y.run v = (.ok a, v'))
    (told : Engine.effects id w' = Engine.effects id w ++ news)
    (told' : Engine.effects id v' = Engine.effects id v ++ news)
    (next : Alike id (k a) w' (l a) v') : Alike id (x >>= k) w (y >>= l) v := by
  obtain ⟨b, w'', v'', run, run', same, more, after, after'⟩ := next
  refine ⟨b, w'', v'', (Act.run_bind_of_ok left k).trans run,
    (Act.run_bind_of_ok right l).trans run', same, news ++ more, ?_, ?_⟩
  · rw [after, told, List.append_assoc]
  · rw [after', told', List.append_assoc]

theorem Alike.map {τ : Type} {x : Act σ α} {y : Act τ α} {w : World σ} {v : World τ}
    (alike : Alike id x w y v) (f : α → β) :
    Alike id (x >>= fun a => Pure.pure (f a)) w (y >>= fun a => Pure.pure (f a)) v := by
  obtain ⟨a, w', v', run, run', same⟩ := alike
  exact ⟨f a, w', v', Act.run_bind_of_ok run _, Act.run_bind_of_ok run' _, same⟩

namespace Running

variable {s t : EngineSettings} {c : Context Callback} {w : World σ}

theorem gains {v : World σ} {xs : List Engine.Effect} (running : Running id s c w)
    (gains : Gains id w v xs) : Running id s (Engine.Effect.writeAll c xs) v where
  active := gains.active running.active
  settings := gains.settings_eq.trans running.settings
  context := by rw [gains.context_eq, running.context]

/-- On a signal a running engine has the effects computed for it. -/
theorem run_runAs {notify : Notify σ} (running : Running id s c w) (spares : notify.Spares id)
    (tables : c.misfits = .empty) (ρ : Rewriting) (signal : Signal) :
    ∃ v, (signal.runAs ρ notify id).run w = (.ok (signal.due c).length, v) ∧
      Running id s (Engine.Effect.writeAll c (signal.effects ρ s c)) v ∧
      Engine.effects id v = Engine.effects id w ++
        (signal.effects ρ s c).flatMap fun x => heard c x.notice := by
  have whole : (w.engine id).context.misfits.nodes = none := by
    rw [running.context, tables]
    rfl
  obtain ⟨v, run, gains⟩ := signal.run_runAs spares running.active whole ρ
  rw [running.context] at run
  rw [running.context, running.settings] at gains
  have told := gains.effects
  rw [running.context] at told
  exact ⟨v, run, running.gains gains, told⟩

/-- Two engines with the same context that would have the same effects on every signal look alike
after any signals, by induction on the signals. -/
theorem alike_runAs {τ : Type} {notify : Notify σ} {notify' : Notify τ}
    (spares : notify.Spares id) (spares' : notify'.Spares id) {ρ π : Rewriting}
    {I : Context Callback → Prop} (keeps : ∀ c x, I c → I (Engine.Effect.write c x))
    (tables : ∀ c, I c → c.misfits = .empty)
    (same : ∀ c, I c → ∀ signal : Signal, signal.effects ρ s c = signal.effects π t c)
    (signals : List Signal) {v : World τ} (left : Running id s c w) (right : Running id t c v)
    (holds : I c) :
    Alike id (signals.mapM (Signal.runAs ρ notify id)) w
      (signals.mapM (Signal.runAs π notify' id)) v := by
  induction signals generalizing c w v with
  | nil => exact .pure (left.context.trans right.context.symm) []
  | cons signal signals ih =>
    obtain ⟨w', run, left, told⟩ := left.run_runAs spares (tables c holds) ρ signal
    obtain ⟨v', run', right, told'⟩ := right.run_runAs spares' (tables c holds) π signal
    rw [← same c holds signal] at right told'
    have rest := ih left right (Engine.Effect.writeAll_keeps keeps holds _)
    rw [List.mapM_cons, List.mapM_cons]
    exact .bind run run' told told' (rest.map _)

end Running

end EventCanvas
