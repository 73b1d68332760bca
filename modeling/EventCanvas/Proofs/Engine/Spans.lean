import EventCanvas.Proofs.Engine.Nesting
import EventCanvas.Proofs.Engine.Restoring

/-!
# Spans follow the dispatches

* `Follows since id m w`: a run went on from the moment `m`, every event was in its
  place, and the dispatches that were in progress then are in progress again.
* `Engine.answer_executeNodeEvents`: a dispatch answers how many events matched.
* `Host.opens_span`: a dispatch on an engine that traces has a span of its own, from
  its call to its answer.
* `Host.spans_nested`: every event of every run is in its place, and every call
  leaves an engine with the span in progress that it had.

What runs inside a dispatch is followed from the moment that it began.  When it has
ended, its span is finished and it is answered, which leads back to the moment
before (`Follows.of_ends`).
-/

namespace EventCanvas

open Act (Maintains)

variable {σ α : Type} {id : Nat}

/-! ## Following a run -/

/-- A moment in a run: which dispatches of an engine are in progress, and what happened before. -/
structure Moment where
  dispatches : List Dispatch
  past : List Event

/-- A run went on from a moment, and the dispatches that were in progress then are so again. -/
def Follows (since : List Event) (id : Nat) (m : Moment) (w : World σ) : Prop :=
  ∃ h, w.history = since ++ (m.past ++ h) ∧ Tracks id m.dispatches (m.past ++ h) w

namespace Follows

variable {since : List Event} {m : Moment} {w v : World σ}

theorem extend (follows : Follows since id m w) (new : List Event)
    (history : v.history = w.history ++ new)
    (tracks : ∀ h, Tracks id m.dispatches h w → Tracks id m.dispatches (h ++ new) v) :
    Follows since id m v := by
  obtain ⟨h, since_h, tracked⟩ := follows
  refine ⟨h ++ new, by rw [history, since_h, List.append_assoc, List.append_assoc], ?_⟩
  rw [← List.append_assoc]
  exact tracks _ tracked

theorem of_world (follows : Follows since id m w) (history : v.history = w.history)
    (tracks : ∀ h, Tracks id m.dispatches h w → Tracks id m.dispatches h v) : Follows since id m v :=
  follows.extend [] (by rw [history, List.append_nil]) fun h tracked => by
    rw [List.append_nil]
    exact tracks h tracked

theorem of_eq (follows : Follows since id m w) (engines : v.engines = w.engines)
    (history : v.history = w.history) (numbers : w.spans ≤ v.spans) : Follows since id m v := by
  have same : v.engine id = w.engine id := by simp only [World.engine, engines]
  exact follows.of_world history fun h tracked =>
    tracked.of_world (by rw [same]) (fun _ => by rw [same]; exact ⟨rfl, rfl⟩)
      (Nat.le_of_eq (by rw [engines])) numbers

theorem aside (follows : Follows since id m w) {e : Event} (aside : e.Aside id) :
    Follows since id m (w.record e) :=
  follows.extend [e] rfl fun _ tracked => tracked.aside aside

theorem dispose (follows : Follows since id m w) (i : Nat) : Follows since id m (w.dispose i) := by
  obtain ⟨h, since_h, tracked⟩ := follows
  obtain ⟨new, history, tracks⟩ := tracked.dispose i
  refine ⟨h ++ new, by rw [history, since_h, List.append_assoc, List.append_assoc], ?_⟩
  rw [← List.append_assoc]
  exact tracks

theorem leaves (since : List Event) (id : Nat) (m : Moment) :
    Host.Leaves (Follows since id m : World σ → Prop) where
  write _ _ follows := follows.of_eq rfl rfl (Nat.le_refl _)
  log _ _ follows := follows.of_eq rfl rfl (Nat.le_refl _)
  note _ _ follows := follows.aside trivial

end Follows

/-! ## Noting and finishing -/

section

variable {since : List Event} (m : Moment)

namespace Follows

/-- When a skip was noted it may be reported: it is the last thing that happened, if there is a span
to note it on. -/
theorem noted_traceOpen {w : World σ} (follows : Follows since id m w) (reason : Engine.Skip) :
    ∃ v h, (Engine.traceOpen id reason.spanEvent).run w = (.ok (), v) ∧
      v.history = since ++ (m.past ++ h) ∧ Tracks id m.dispatches (m.past ++ h) v ∧
      ∀ span, Current id (m.past ++ h) span → ∃ before, m.past ++ h = before ++
        [.observed (.traced id (Tracer.skipped reason.kind.name reason.message span))] := by
  obtain ⟨h, since_h, tracked⟩ := follows
  rw [Engine.run_traceOpen]
  cases target : (w.engine id).tracer.target (w.engine id).span with
  | none =>
    refine ⟨w, h, rfl, since_h, tracked, fun span current => ?_⟩
    rw [(tracked.target_eq_some_iff span).2 current] at target
    cases target
  | some span =>
    have current := (tracked.target_eq_some_iff span).1 target
    have noted := tracked.skipped current reason.kind.name reason.message
    refine ⟨_, h ++ [.observed (.traced id (reason.spanEvent span))], rfl, ?_, ?_,
      fun other innermost => ?_⟩
    · rw [← List.append_assoc, ← List.append_assoc, List.append_assoc since, ← since_h]
      rfl
    · rw [← List.append_assoc]
      exact noted
    · -- noting the skip did not change which span is the innermost
      have same : dispatches id (m.past ++ (h ++ [.observed (.traced id (reason.spanEvent span))])) =
          dispatches id (m.past ++ h) := by
        rw [← List.append_assoc, dispatches_append]
        rfl
      obtain rfl : span = other := by
        have again := innermost.1
        rw [same, current.1] at again
        exact Option.some.inj again
      exact ⟨m.past ++ h, (List.append_assoc ..).symm⟩

theorem setSpan {w : World σ} (follows : Follows since id m w) :
    Follows since id m (w.modifyEngine id fun e => { e with span := innermostSpan m.dispatches }) :=
  follows.of_world rfl fun _ tracked =>
    tracked.modifyEngine id fun _ => ⟨tracked.current.symm, rfl, rfl⟩

/-- How what runs inside a dispatch ends: with its count noted as the last thing, or with nothing to
note it on. -/
inductive Ends (since : List Event) (id : Nat) (m : Moment) : Except Fault Nat → World σ → Prop
  | counted {n : Nat} {span : Span} {w : World σ} : Follows since id m w →
    (w.engine id).tracer.target (w.engine id).span = some span →
    Ends since id m (.ok n) (w.record (.observed (.traced id (Tracer.matched (.int n) span))))
  | uncounted {outcome : Except Fault Nat} {w : World σ} : Follows since id m w →
    (∀ n : Nat, outcome = .ok n → n ≠ 0 →
      (w.engine id).tracer.target (w.engine id).span = none) →
    Ends since id m outcome w

/-- A dispatch that ends leads back to the moment before it: the events that it adds at its end are
in their place, and end it and no other. -/
theorem back {d : Dispatch} {started inside : List Event} {u v : World σ} (closing : List Event)
    (since_h : u.history = since ++ (m.past ++ started ++ inside))
    (tracked : Tracks id (d :: m.dispatches) (m.past ++ started ++ inside) u)
    (inPlace : Throughout (fun past => InPlace id (m.past ++ started ++ inside ++ past)) closing)
    (nested : closing.foldl (Event.nest id) (d :: m.dispatches) = m.dispatches)
    (alive : .disposed id ∉ closing)
    (about : ∀ e, .observed (.traced id e) ∈ closing →
      ∃ span, e.span? = some span ∧ d.span = some span)
    (history : v.history = u.history ++ closing)
    (engines : v.engines =
      u.engines.modify id fun e => { e with span := innermostSpan m.dispatches })
    (numbers : v.spans = u.spans) : Follows since id m v := by
  have created : id < u.engines.length := tracked.inside (List.cons_ne_nil _ _)
  have engine : v.engine id = { u.engine id with span := innermostSpan m.dispatches } := by
    rw [← World.engine_modifyEngine_self
      (fun e => { e with span := innermostSpan m.dispatches }) created]
    simp only [World.engine, World.modifyEngine, engines]
  have ended := tracked.finish (v := v) closing inPlace nested alive about engine
    (by rw [engines, List.length_modify]) numbers
  refine ⟨started ++ inside ++ closing, ?_, ?_⟩
  · simp only [history, since_h, List.append_assoc]
  · simpa only [List.append_assoc] using ended

section

/-- The world after a dispatch set the span in progress back, finished its own and was answered. -/
def ended (m : Moment) (id : Nat) (d : Dispatch) (outcome : Except Fault Nat) (w : World σ) :
    World σ :=
  ((Tracer.finish id (Engine.faultIn? outcome) d.span).run
    (w.modifyEngine id fun e => { e with span := innermostSpan m.dispatches })).2.record
      (.answered (d.op id) (Act.replyTo (outcome.map fun n : Nat => .value (.int n))))

variable {started inside : List Event} {span : Span} {node kind data : Value} {u : World σ}

/-- The answer to a dispatch ends it. -/
theorem nest_closing (known : (Gesture.ofValue? kind).isSome = true) (ds : List Dispatch)
    (reply : Reply) :
    Event.nest id (⟨node, kind, data, some span⟩ :: ds)
      (.answered (.engine id (.executeNodeEvents node kind data)) reply) = ds := by
  simp [Event.nest, known]

section

variable {past : List Event} {ds : List Dispatch}
  (innermost : dispatches id past = ⟨node, kind, data, some span⟩ :: ds)

include innermost

theorem answered_innermost (reply : Reply) : Answered id past span reply
    [.answered (.engine id (.executeNodeEvents node kind data)) reply] :=
  ⟨⟨node, kind, data, some span⟩, [], by rw [innermost]; rfl, rfl, rfl⟩

/-- The innermost dispatch is answered in its place when its span was just finished. -/
theorem inPlace_answered (reply : Reply) (future : List Event) :
    InPlace id (past ++ [.observed (.traced id (.finish span))])
      (.answered (.engine id (.executeNodeEvents node kind data)) reply) future := by
  refine fun _ _ => ⟨some span, ?_, fun s own => ?_⟩
  · rw [dispatches_append, innermost]
    rfl
  · obtain rfl := Option.some.inj own
    exact ⟨past, rfl⟩

end

variable (known : (Gesture.ofValue? kind).isSome = true)
  (since_h : u.history = since ++ (m.past ++ started ++ inside))
  (tracked : Tracks id (⟨node, kind, data, some span⟩ :: m.dispatches)
    (m.past ++ started ++ inside) u)

include known since_h tracked

/-- The count is noted once on the span, which is finished next, and the dispatch answers it. -/
theorem ended_counted {other : Span} (n : Nat)
    (target : (u.engine id).tracer.target (u.engine id).span = some other) :
    Follows since id m (ended m id ⟨node, kind, data, some span⟩ (.ok n)
      (u.record (.observed (.traced id (Tracer.matched (.int n) other))))) := by
  have current := (tracked.target_eq_some_iff other).1 target
  obtain rfl : other = span := by
    have same := current.1
    rw [tracked.nested] at same
    exact (Option.some.inj same).symm
  have once := tracked.uncounted other (tracked.mem_of_current current)
  have here := (congrArg (dispatches id) (List.append_nil _)).trans tracked.nested
  have counted : dispatches id (m.past ++ started ++ inside ++
      [.observed (.traced id (Tracer.matched (.int n) other))]) =
        ⟨node, kind, data, some other⟩ :: m.dispatches := by
    rw [dispatches_append, tracked.nested]
    rfl
  refine back m [.observed (.traced id (Tracer.matched (.int n) other)),
    .observed (.traced id (.finish other)),
    .answered (.engine id (.executeNodeEvents node kind data)) (.value (.int n))] since_h tracked
    (.cons (fun _ => ⟨rfl, ?_, ?_, _, rfl, answered_innermost here (.value (.int n))⟩)
      (.cons (fun _ => ⟨.value (.int n), answered_innermost counted _, fun n' same _ _ => ?_⟩)
        (.single ?_)))
    (nest_closing known _ (.value (.int n))) (by simp) (by simp [Tracer.matched, SpanEvent.span?])
    ((List.append_assoc ..).trans (List.append_assoc ..)) rfl rfl
  · rwa [List.append_nil]
  · rwa [List.append_nil]
  · obtain rfl : (n : Int) = n' := by simpa using same
    exact ⟨_, rfl⟩
  · have answered := inPlace_answered counted (.value (.int n)) []
    rwa [List.append_assoc] at answered

/-- Where no count could be noted the dispatch answers none, unless the engine was disposed. -/
theorem ended_uncounted (n : Nat)
    (none : n ≠ 0 → (u.engine id).tracer.target (u.engine id).span = none) :
    Follows since id m (ended m id ⟨node, kind, data, some span⟩ (.ok n) u) := by
  have here := (congrArg (dispatches id) (List.append_nil _)).trans tracked.nested
  refine back m [.observed (.traced id (.finish span)),
    .answered (.engine id (.executeNodeEvents node kind data)) (.value (.int n))] since_h tracked
    (.cons (fun _ => ⟨.value (.int n), answered_innermost here _, fun n' same some alive => ?_⟩)
      (.single (inPlace_answered tracked.nested (.value (.int n)) [])))
    (nest_closing known _ (.value (.int n))) (by simp) (by simp [SpanEvent.span?])
    (List.append_assoc ..) rfl rfl
  -- a span that there is to note the count on would have been found
  obtain rfl : (n : Int) = n' := by simpa using same
  rw [List.append_nil] at alive
  have target := (tracked.target_eq_some_iff span).2 ⟨by rw [tracked.nested]; rfl, alive⟩
  rw [none (by simpa using some)] at target
  cases target

/-- The fault that ended a dispatch is noted on its span before that is finished. -/
theorem ended_failed (f : Fault) :
    Follows since id m (ended m id ⟨node, kind, data, some span⟩ (.error f) u) := by
  have noted : dispatches id (m.past ++ started ++ inside ++
      [.observed (.traced id (.setStatus span f.text)),
        .observed (.traced id (.recordFault span f))]) =
          ⟨node, kind, data, some span⟩ :: m.dispatches := by
    rw [dispatches_append, tracked.nested]
    rfl
  refine back m [.observed (.traced id (.setStatus span f.text)),
    .observed (.traced id (.recordFault span f)), .observed (.traced id (.finish span)),
    .answered (.engine id (.executeNodeEvents node kind data)) (.failed f)] since_h tracked
    (.cons (fun _ => trivial) (.cons (fun _ => trivial)
      (.cons (fun _ => ⟨.failed f, answered_innermost noted _, fun n same => by cases same⟩)
        (.single ?_))))
    (nest_closing known _ (.failed f)) (by simp) (by simp [SpanEvent.span?])
    ((List.append_assoc ..).trans ((List.append_assoc ..).trans (List.append_assoc ..))) rfl rfl
  have answered := inPlace_answered noted (.failed f) []
  rwa [List.append_assoc] at answered

end

/-- A dispatch without a span is just answered. -/
theorem ended_silent {started inside : List Event} {node kind data : Value} {u : World σ}
    (known : (Gesture.ofValue? kind).isSome = true)
    (since_h : u.history = since ++ (m.past ++ started ++ inside))
    (tracked : Tracks id (⟨node, kind, data, none⟩ :: m.dispatches)
      (m.past ++ started ++ inside) u) (outcome : Except Fault Nat) :
    Follows since id m (ended m id ⟨node, kind, data, none⟩ outcome u) := by
  refine back m [.answered (.engine id (.executeNodeEvents node kind data)) _] since_h tracked
    (.single fun _ _ => ⟨none, ?_, fun s own => nomatch own⟩)
    ?_ (by simp) (by simp) rfl rfl rfl
  · rw [List.append_nil, tracked.nested]
    rfl
  · simp [Event.nest, known]

/-- What ended inside a dispatch leads back to the moment before, when its span was finished and it
was answered. -/
theorem of_ends {started : List Event} {d : Dispatch} {outcome : Except Fault Nat} {v : World σ}
    (known : (Gesture.ofValue? d.kind).isSome = true)
    (ends : Ends since id ⟨d :: m.dispatches, m.past ++ started⟩ outcome v) :
    Follows since id m (ended m id d outcome v) := by
  obtain ⟨node, kind, data, span⟩ := d
  cases ends with
  | counted follows target =>
    obtain ⟨inside, since_h, tracked⟩ := follows
    cases span with
    | some span => exact ended_counted m known since_h tracked _ target
    | none =>
      -- without a span there is nothing to note a count on
      have current := ((tracked.target_eq_some_iff _).1 target).1
      rw [tracked.nested] at current
      cases current
  | uncounted follows none =>
    obtain ⟨inside, since_h, tracked⟩ := follows
    cases span with
    | none => exact ended_silent m known since_h tracked outcome
    | some span =>
      cases outcome with
      | ok n => exact ended_uncounted m known since_h tracked n (none n rfl)
      | error f => exact ended_failed m known since_h tracked f

end Follows

end

/-! ## Opening a span -/

/-- What a dispatch begins with on an engine that traces: it is called, and then a span with the
given number is opened for it. -/
def opening (id : Nat) (session : String) (g : Gesture) (node data : Value) (number : Nat) :
    List Event :=
  [.called (.engine id (.executeNodeEvents node (.text g.name) data)),
    .observed (.traced id (.getTracer "canvasflow" "0.1.0")),
    .observed (.traced id (.start ⟨number, "canvasflow." ++ g.name⟩
      [("canvasflow.session", .text session), ("canvasflow.node_id", node),
        ("canvasflow.event_type", .text g.name)]))]

/-- An engine that traces opens the next span for a dispatch. -/
theorem run_start_of_traced {w : World σ} {session : String}
    (tracer : (w.engine id).tracer = .session session true) (g : Gesture) (node data : Value) :
    ∃ u, ((w.engine id).tracer.start id node (.text g.name)).run
        (w.record (.called (.engine id (.executeNodeEvents node (.text g.name) data)))) =
          (.ok (some ⟨w.spans, "canvasflow." ++ g.name⟩), u) ∧
      u.history = w.history ++ opening id session g node data w.spans ∧
      u.engines = w.engines ∧ u.spans = w.spans + 1 := by
  rw [tracer]
  exact ⟨_, rfl, by simp [World.record, opening, Value.message], rfl, rfl⟩

/-- An engine that does not trace opens no span. -/
theorem run_start_of_not_traced {w : World σ}
    (untraced : ∀ session, (w.engine id).tracer ≠ .session session true) (node event : Value)
    (v : World σ) : ((w.engine id).tracer.start id node event).run v = (.ok none, v) := by
  cases tracer : (w.engine id).tracer with
  | silent => rfl
  | session name enabled =>
    cases enabled with
    | false => rfl
    | true => exact absurd tracer (untraced name)

/-! ## Every step follows -/

section

variable {notify : Notify σ} {since : List Event} (m : Moment)
  (callbacks : ∀ (m : Moment) callback notice,
    Maintains (Follows since id m) (notify callback notice))

include callbacks

namespace Follows

theorem maintains_tell {i : Nat} {notice : Notice}
    (aside : ∀ callback, Event.Aside id (.observed (.started i callback notice))) :
    Maintains (Follows since id m) (Engine.tell notify i notice) :=
  Engine.maintains_tell notice (fun _ callback follows _ => follows.aside (aside callback))
    fun callback => callbacks m callback notice

/-- Having an effect follows: what it tells of is no skip. -/
theorem maintains_commit (i : Nat) (x : Engine.Effect) :
    Maintains (Follows since id m) (Engine.commit notify i x) := by
  refine Engine.maintains_commit x fun w follows _ _ => ?_
  refine maintains_tell m callbacks (fun callback => by cases x <;> trivial) _ ?_
  exact follows.of_world rfl fun _ tracked => tracked.modifyEngine i fun _ => ⟨rfl, rfl, rfl⟩

open Engine in
/-- Whatever happens on another engine follows. -/
theorem supports {i : Nat} (other : i ≠ id) : Supports (Follows since id m) notify i where
  log _ _ follows := follows.of_eq rfl rfl (Nat.le_refl _)
  traced _ _ follows := follows.aside other
  freshSpan _ follows := follows.of_eq rfl rfl (Nat.le_succ _)
  setSpan _ _ follows :=
    follows.of_world rfl fun _ tracked => tracked.modifyEngine i fun same => absurd same other
  commit := maintains_commit m callbacks i
  report _ := maintains_tell m callbacks fun _ => other

/-! ### Skips -/

/-- Reporting a skip that was just noted follows. -/
theorem reportSkip {w : World σ} (reason : Engine.Skip) {h : List Event}
    (since_h : w.history = since ++ (m.past ++ h)) (tracked : Tracks id m.dispatches (m.past ++ h) w)
    (noted : ∀ span, Current id (m.past ++ h) span → ∃ before, m.past ++ h = before ++
      [.observed (.traced id (Tracer.skipped reason.kind.name reason.message span))]) :
    Follows since id m ((Engine.reportSkip notify id reason).run w).2 := by
  have here : Follows since id m w := ⟨h, since_h, tracked⟩
  unfold Engine.reportSkip
  rw [Act.run_bind_of_ok (Act.run_engine id w)]
  cases (w.engine id).context.hooks.diagnostic.isSome with
  | false => exact here
  | true =>
    simp only [if_true]
    cases about : Diagnostic.about? reason.kind reason.message reason.nodeId reason.detail with
    | bad issues => exact here
    | ok d =>
      obtain ⟨kind, message⟩ := Diagnostic.kind_message_of_about? about
      rw [← kind, ← message] at noted
      dsimp only
      rw [Engine.run_tell]
      cases (w.engine id).context.hooks.get (Notice.diagnosed d).hook with
      | none => exact here
      | some callback =>
        refine callbacks m callback _ _ ⟨h ++ [.observed (.started id callback (.diagnosed d))],
          ?_, ?_⟩
        · rw [World.history_record, since_h, List.append_assoc, List.append_assoc]
        · rw [← List.append_assoc]
          exact tracked.reported callback noted

/-- Skipping something follows: it is noted before it is reported. -/
theorem maintains_skip (reason : Engine.Skip) :
    Maintains (Follows since id m) (Engine.skip notify id reason) := by
  intro w follows
  have logged : Follows since id m { w with log := w.log ++ [reason.record] } :=
    follows.of_eq rfl rfl (Nat.le_refl _)
  obtain ⟨v, h, run, since_h, tracked, noted⟩ := noted_traceOpen m logged reason
  unfold Engine.skip
  rw [Act.run_bind_of_ok (Act.run_log _ w), Act.run_bind_of_ok run, Act.run_tryCatch]
  have reported := reportSkip m callbacks reason since_h tracked noted
  rcases outcome : (Engine.reportSkip notify id reason).run v with ⟨f | ⟨⟩, u⟩
  · rw [outcome] at reported
    exact reported.of_eq rfl rfl (Nat.le_refl _)
  · rw [outcome] at reported
    exact reported

open Engine in
/-- Running actions and events follows. -/
theorem handles : Handles (Follows since id m) notify id where
  log _ _ follows := follows.of_eq rfl rfl (Nat.le_refl _)
  skip := maintains_skip m callbacks
  commit := maintains_commit m callbacks id

/-! ### Dispatches -/

theorem ends_dispatch {w : World σ} (follows : Follows since id m w) (g : Gesture)
    (node data : Value) :
    Ends since id m ((Engine.dispatch notify id g node data).run w).1
      ((Engine.dispatch notify id g node data).run w).2 := by
  have skips (reason : Engine.Skip) : Ends since id m
      ((do Engine.skip notify id reason; return 0 : Act σ Nat).run w).1
      ((do Engine.skip notify id reason; return 0 : Act σ Nat).run w).2 := by
    obtain ⟨v, run⟩ := (Engine.succeeds_skip notify id reason).run w
    have skipped := maintains_skip m callbacks reason w follows
    rw [run] at skipped
    rw [Act.run_bind_of_ok run]
    exact .uncounted skipped fun n zero some => absurd (Except.ok.inj zero).symm some
  obtain ⟨record?, reads⟩ := Engine.readsOnly_recordOf (σ := σ) id node
  unfold Engine.dispatch
  rw [Act.run_bind, reads]
  cases record? (w.engine id) with
  | error f => exact .uncounted follows fun _ ok => nomatch ok
  | ok record =>
    dsimp only
    cases record.isNull with
    | true => exact skips _
    | false =>
      simp only [Bool.false_eq_true, if_false]
      cases Engine.eventsOf? record with
      | none => exact skips _
      | some events =>
        let due := Engine.matching g events
        obtain ⟨u, run⟩ := (Engine.succeeds_attemptEvents notify id g node data due).run w
        have ran := (handles m callbacks).attemptEvents g node data due w follows
        rw [run] at ran
        show Ends since id m ((Engine.runMatching notify id g node data events).run w).1
          ((Engine.runMatching notify id g node data events).run w).2
        unfold Engine.runMatching
        rw [Act.run_bind_of_ok run, Act.run_bind_of_ok (Engine.run_traceOpen id _ u)]
        cases target : (u.engine id).tracer.target (u.engine id).span with
        | none => exact .uncounted ran fun _ _ _ => target
        | some span => exact .counted ran target

omit callbacks in
/-- A dispatch begins, with a span of its own if the engine traces. -/
theorem begins {w : World σ} (follows : Follows since id m w)
    (active : (w.engine id).isActive = true) (g : Gesture) (node data : Value) :
    ∃ span started u,
      ((w.engine id).tracer.start id node (.text g.name)).run
        (w.record (.called (.engine id (.executeNodeEvents node (.text g.name) data)))) =
          (.ok span, u) ∧
      Follows since id ⟨⟨node, .text g.name, data, span⟩ :: m.dispatches, m.past ++ started⟩
        (u.modifyEngine id fun e => { e with span }) := by
  obtain ⟨before, since_h, tracked⟩ := follows
  have inside := World.lt_length_of_isActive active
  by_cases traced : ∃ session, (w.engine id).tracer = .session session true
  · obtain ⟨session, tracer⟩ := traced
    obtain ⟨u, starts, history, engines, numbers⟩ := run_start_of_traced tracer g node data
    let span : Span := ⟨w.spans, "canvasflow." ++ g.name⟩
    have engine : (u.modifyEngine id fun e => { e with span := some span }).engine id =
        { w.engine id with span := some span } := by
      rw [World.engine_modifyEngine_self _ (by rwa [engines]), World.engine, World.engine, engines]
    have begun : Tracks id (⟨node, .text g.name, data, some span⟩ :: m.dispatches)
        (m.past ++ before ++ opening id session g node data w.spans)
        (u.modifyEngine id fun e => { e with span := some span }) := by
      refine tracked.begins active _ (.cons trivial (.cons (fun _ => trivial)
        (.single fun _ => ⟨fun e' member same => ?_, m.past ++ before, node, .text g.name, data,
          ?_, rfl⟩)))
        (by simp [opening, Event.nest, span]) (by simp [opening])
        (by simp [opening, span, SpanEvent.span?]) (fun _ => ⟨session, tracer⟩) (fun _ own => ?_)
        engine (by simp [engines, World.modifyEngine]) (by simp [numbers, World.modifyEngine])
      · -- what was sent to the tracer before is about older spans
        rcases List.mem_append.1 member with member | member
        · exact absurd (tracked.known _ _ member same) (Nat.lt_irrefl _)
        · obtain rfl : e' = .getTracer "canvasflow" "0.1.0" := by simpa using member
          cases same
      · rw [Gesture.ofValue?_name]
        rfl
      · obtain rfl := Option.some.inj own
        exact ⟨rfl, by simp [numbers, World.modifyEngine]⟩
    refine ⟨some span, before ++ opening id session g node data w.spans, u, starts, [], ?_, ?_⟩
    · simp [history, since_h]
    · simpa using begun
  · let called := w.record (.called (.engine id (.executeNodeEvents node (.text g.name) data)))
    have starts := run_start_of_not_traced (fun session tracer => traced ⟨session, tracer⟩) node
      (.text g.name) called
    have begun : Tracks id (⟨node, .text g.name, data, none⟩ :: m.dispatches)
        (m.past ++ before ++ [.called (.engine id (.executeNodeEvents node (.text g.name) data))])
        (called.modifyEngine id fun e => { e with span := none }) :=
      tracked.begins active _ (.single trivial) (by simp [Event.nest]) (by simp) (by simp)
        (fun some => absurd rfl some) (by simp)
        (World.engine_modifyEngine_self _ inside)
        (by simp [called, World.modifyEngine, World.record]) (Nat.le_refl _)
    refine ⟨none, before ++ [.called (.engine id (.executeNodeEvents node (.text g.name) data))],
      called, starts, [], ?_, ?_⟩
    · simp [called, since_h]
    · simpa using begun

/-- A dispatch on an active engine follows: what runs inside it is followed from the moment that it
began. -/
theorem exchange_dispatched {w : World σ} (follows : Follows since id m w)
    (active : (w.engine id).isActive = true) (g : Gesture) (node data : Value) :
    Follows since id m ((Act.exchange (.engine id (.executeNodeEvents node (.text g.name) data))
      (Host.perform notify (.engine id (.executeNodeEvents node (.text g.name) data)))).run
        w).2 := by
  obtain ⟨span, started, u, starts, begun⟩ := begins m follows active g node data
  have current : (w.engine id).span = innermostSpan m.dispatches := by
    obtain ⟨_, -, tracked⟩ := follows
    exact tracked.current
  let called := w.record (.called (.engine id (.executeNodeEvents node (.text g.name) data)))
  have ends := ends_dispatch _ callbacks begun g node data
  have runs := (Engine.run_executeNodeEvents_of_active notify (w := called) active
    (Gesture.ofValue?_name g) node data).trans (Engine.run_inSpan_of_start starts rfl rfl)
  rw [Host.perform, Engine.exchange_executeNodeEvents runs]
  have resumed := of_ends m (d := ⟨node, .text g.name, data, span⟩)
    (by rw [Gesture.ofValue?_name]; rfl) ends
  unfold Follows.ended at resumed
  rwa [← current] at resumed

/-- Triggering a node follows, whether the engine is active and knows the event or not. -/
theorem exchange_executeNodeEvents (node kind data : Value) :
    Maintains (Follows since id m) (Act.exchange (.engine id (.executeNodeEvents node kind data))
      (Host.perform notify (.engine id (.executeNodeEvents node kind data)))) := by
  intro w follows
  let called := w.record (.called (.engine id (.executeNodeEvents node kind data)))
  have started : (Engine.executeNodeEvents notify id node kind data).run called = _ :=
    Act.run_bind_of_ok (Act.run_engine id called) _
  cases known : Gesture.ofValue? kind with
  | none =>
    -- an event that is not known is not dispatched, so nothing begins or ends
    have unknown : ¬ (id = id ∧ (Gesture.ofValue? kind).isSome = true) := by simp [known]
    have called_follows : Follows since id m called := follows.aside unknown
    have answered {outcome : Except Fault Nat} {v : World σ}
        (run : (Engine.executeNodeEvents notify id node kind data).run called = (outcome, v))
        (ended : Follows since id m v) :
        Follows since id m ((Act.exchange (.engine id (.executeNodeEvents node kind data))
          (Host.perform notify (.engine id (.executeNodeEvents node kind data)))).run w).2 := by
      rw [Host.perform, Engine.exchange_executeNodeEvents run]
      exact ended.aside unknown
    cases active : (w.engine id).isActive with
    | false =>
      rw [show (called.engine id).isActive = false from active] at started
      exact answered started (called_follows.of_eq rfl rfl (Nat.le_refl _))
    | true =>
      rw [show (called.engine id).isActive = true from active, known] at started
      let reason := Engine.unknownTrigger node kind
      obtain ⟨v, run⟩ := (Engine.succeeds_skip notify id reason).run called
      have skipped := maintains_skip m callbacks reason _ called_follows
      rw [run] at skipped
      exact answered (started.trans (Act.run_bind_of_ok run _)) skipped
  | some g =>
    obtain rfl := Gesture.eq_name_of_ofValue? known
    cases active : (w.engine id).isActive with
    | true => exact exchange_dispatched m callbacks follows active g node data
    | false =>
      rw [show (called.engine id).isActive = false from active] at started
      rw [Host.perform, Engine.exchange_executeNodeEvents started]
      obtain ⟨h, since_h, tracked⟩ := follows
      have ignored := tracked.ignored node (by rw [known]; rfl) data
        (.value (.int (0 : Nat)))
      have here : Follows since id m ((w.record
          (.called (.engine id (.executeNodeEvents node (.text g.name) data)))).record
          (.answered (.engine id (.executeNodeEvents node (.text g.name) data))
            (.value (.int (0 : Nat))))) :=
        ⟨h ++ [.called (.engine id (.executeNodeEvents node (.text g.name) data)),
          .answered (.engine id (.executeNodeEvents node (.text g.name) data))
            (.value (.int (0 : Nat)))],
          by simp [since_h], by rwa [← List.append_assoc]⟩
      exact here.of_eq rfl rfl (Nat.le_refl _)

/-- Every call follows if callbacks do. -/
theorem maintains_exchange (op : HostOp) :
    Maintains (Follows since id m) (Act.exchange op (Host.perform notify op)) := by
  by_cases triggers : ∃ node kind data, op = .engine id (.executeNodeEvents node kind data)
  · obtain ⟨node, kind, data, rfl⟩ := triggers
    exact exchange_executeNodeEvents m callbacks node kind data
  · have performed : Maintains (Follows since id m) (Host.perform notify op) := by
      cases op with
      | engine i op =>
        have ends : Maintains (Follows since id m) (Engine.disposeAt i : Act σ Unit) :=
          fun _ follows => follows.dispose i
        have updates (changes) :
            Maintains (Follows since id m) (Engine.updateContext i changes : Act σ Unit) :=
          Engine.maintains_updateContext changes fun w follows _ =>
            follows.of_world rfl fun _ tracked => tracked.modifyEngine i fun _ => ⟨rfl, rfl, rfl⟩
        by_cases other : i = id
        · subst other
          exact (handles m callbacks).perform op
            (fun node kind data same => absurd ⟨node, kind, data, by rw [same]⟩ triggers)
            (fun _ => ends) fun changes _ => updates changes
        · exact (supports m callbacks other).perform op (fun _ => ends) fun changes _ =>
            updates changes
      | slot op =>
        exact Slot.maintains_perform (fun _ _ follows => follows.of_eq rfl rfl (Nat.le_refl _))
          (fun i _ follows => follows.dispose i)
          (fun _ follows => follows.of_eq rfl rfl (Nat.le_refl _)) op
          fun c _ _ follows => follows.extend [_] rfl fun _ tracked => tracked.created c
    intro w follows
    have quiet : Event.Aside id (.called op) ∧ ∀ reply, Event.Aside id (.answered op reply) := by
      cases op with
      | slot op => exact ⟨trivial, fun _ => trivial⟩
      | engine i op =>
        cases op with
        | executeNodeEvents node kind data =>
          have other : i ≠ id := fun same => triggers ⟨node, kind, data, by rw [same]⟩
          exact ⟨fun here => other here.1, fun _ here => other here.1⟩
        | _ => exact ⟨trivial, fun _ => trivial⟩
    rw [Act.run_exchange]
    exact (performed _ (follows.aside quiet.1)).aside (quiet.2 _)

end Follows

end

/-! ## Counting -/

namespace Engine

/-- The record of a node is looked up in the context and nowhere else. -/
theorem run_recordOf_congr {w v : World σ} (same : (v.engine id).context = (w.engine id).context)
    (node : Value) : ((recordOf id node).run v).1 = ((recordOf id node).run w).1 := by
  unfold recordOf
  rw [Act.run_bind_of_ok (Act.run_engine id v), Act.run_bind_of_ok (Act.run_engine id w), same]
  cases (w.engine id).context.misfits.nodes with
  | some v => rfl
  | none =>
    show ((Act.engine id >>= fun e => find node e.context.nodes).run v).1 =
      ((Act.engine id >>= fun e => find node e.context.nodes).run w).1
    rw [Act.run_bind_of_ok (Act.run_engine id v), Act.run_bind_of_ok (Act.run_engine id w), same]
    unfold find
    rw [Act.run_bind, Act.run_bind, Act.run_ofExcept, Act.run_ofExcept]
    cases node.asKey <;> rfl

theorem answer_dispatch (notify : Notify σ) (w : World σ) (g : Gesture) (node data : Value) :
    ((dispatch notify id g node data).run w).1 =
      ((recordOf id node).run w).1.map fun record =>
        (matching g ((eventsOf? record).getD [])).length := by
  have skips (reason : Skip) :
      ((do skip notify id reason; return 0 : Act σ Nat).run w).1 = .ok 0 := by
    obtain ⟨v, run⟩ := (succeeds_skip notify id reason).run w
    rw [Act.run_bind_of_ok run]
    rfl
  obtain ⟨record?, reads⟩ := readsOnly_recordOf (σ := σ) id node
  unfold dispatch
  rw [Act.run_bind, reads]
  cases record? (w.engine id) with
  | error f => rfl
  | ok record =>
    dsimp only [Except.map]
    cases absent : record.isNull with
    | true =>
      obtain rfl : record = .null := by
        cases record with
        | null => rfl
        | _ => cases absent
      exact skips _
    | false =>
      cases row : eventsOf? record with
      | none => exact skips _
      | some events =>
        obtain ⟨_, run⟩ :=
          (succeeds_attemptEvents notify id g node data (matching g events)).run w
        show ((runMatching notify id g node data events).run w).1 = _
        unfold runMatching
        rw [Act.run_bind_of_ok run, Act.run_bind_of_ok (run_traceOpen ..)]
        rfl

/-- Triggering a node answers how many of the events that it had then were of the kind that was
triggered, if the node can be looked up. -/
theorem answer_executeNodeEvents (notify : Notify σ) {w : World σ}
    (active : (w.engine id).isActive = true) (g : Gesture) (node data : Value) :
    ((executeNodeEvents notify id node (.text g.name) data).run w).1 =
      ((recordOf id node).run w).1.map fun record =>
        (matching g ((eventsOf? record).getD [])).length := by
  obtain ⟨u, opened, v, run, -⟩ := run_inSpan id g node (dispatch notify id g node data) w
  obtain ⟨span, same⟩ := opened.engine id
  rw [run_executeNodeEvents_of_active notify active (Gesture.ofValue?_name g), run, answer_dispatch,
    run_recordOf_congr (w := w) (by rw [same])]

end Engine

/-! ## Growing -/

/-- A world whose history began with some events. -/
def Began (past : List Event) (w : World σ) : Prop := past <+: w.history

namespace Began

variable {past : List Event} {w v : World σ}

theorem of_eq (began : Began past w) (history : v.history = w.history) : Began past v := by
  unfold Began
  rwa [history]

theorem record (began : Began past w) (e : Event) : Began past (w.record e) :=
  List.IsPrefix.trans began (List.prefix_append _ _)

theorem dispose (began : Began past w) (i : Nat) : Began past (w.dispose i) :=
  World.dispose_of_holds began i fun _ => (began.of_eq rfl).record _

theorem leaves (past : List Event) : Host.Leaves (Began past : World σ → Prop) where
  write _ _ began := began.of_eq rfl
  log _ _ began := began.of_eq rfl
  note _ _ began := began.record _

section

variable {notify : Notify σ}
  (callbacks : ∀ callback notice, Maintains (Began past) (notify callback notice))

include callbacks

theorem maintains_tell (i : Nat) (notice : Notice) :
    Maintains (Began past) (Engine.tell notify i notice) :=
  Engine.maintains_tell notice (fun _ _ began _ => began.record _) fun callback =>
    callbacks callback notice

open Engine in
theorem supports (i : Nat) : Supports (Began past) notify i where
  log _ _ began := began.of_eq rfl
  traced _ _ began := began.record _
  report _ := maintains_tell callbacks i _
  freshSpan _ began := began.of_eq rfl
  setSpan _ _ began := began.of_eq rfl
  commit x := Engine.maintains_commit x fun _ began _ _ =>
    maintains_tell callbacks i _ _ (began.of_eq rfl)

/-- Every call adds to the history if callbacks do. -/
theorem maintains_exchange (op : HostOp) :
    Maintains (Began past) (Act.exchange op (Host.perform notify op)) := by
  refine .exchange (fun _ e began => began.record e) op ?_
  cases op with
  | engine i op =>
    exact (supports callbacks i).perform op (fun _ _ began => began.dispose i)
      fun changes _ => Engine.maintains_updateContext changes fun _ began _ => began.of_eq rfl
  | slot op =>
    exact Slot.maintains_perform (fun _ _ began => began.of_eq rfl)
      (fun i _ began => began.dispose i) (fun _ began => began.of_eq rfl) op
      fun _ _ _ began => (began.record _).of_eq rfl

end

end Began

/-! ## Every run -/

/-- Finishing a span is the last thing sent to the tracer about it. -/
theorem history_finish (id : Nat) (fault : Option Fault) (span : Span) (w : World σ) :
    ∃ noted, ((Tracer.finish id fault (some span)).run w).2.history =
      w.history ++ (noted ++ [.observed (.traced id (.finish span))]) := by
  cases fault with
  | none => exact ⟨[], rfl⟩
  | some f =>
    refine ⟨[.observed (.traced id (.setStatus span f.text)),
      .observed (.traced id (.recordFault span f))], ?_⟩
    exact (List.append_assoc ..).trans (List.append_assoc ..)

/-- A dispatch on an active engine that traces has a span of its own: it is opened when the dispatch
is called, and finished just before it is answered. -/
theorem Host.opens_span (host : Host σ) (depth : Nat) {v : World σ} {session : String}
    (tracer : (v.engine id).tracer = .session session true)
    (active : (v.engine id).isActive = true) (g : Gesture) (node data : Value) :
    ∃ inside reply, ((Act.exchange (.engine id (.executeNodeEvents node (.text g.name) data))
        (Host.perform (host.notify depth)
          (.engine id (.executeNodeEvents node (.text g.name) data)))).run v).2.history =
      v.history ++ (opening id session g node data v.spans ++ inside ++
        [.observed (.traced id (.finish ⟨v.spans, "canvasflow." ++ g.name⟩)),
          .answered (.engine id (.executeNodeEvents node (.text g.name) data)) reply]) := by
  let called := v.record (.called (.engine id (.executeNodeEvents node (.text g.name) data)))
  let span : Span := ⟨v.spans, "canvasflow." ++ g.name⟩
  obtain ⟨u, starts, opened, -, -⟩ := run_start_of_traced tracer g node data
  let first := u.modifyEngine id fun e => { e with span := some span }
  have runs := (Engine.run_executeNodeEvents_of_active (host.notify depth) (w := called) active
    (Gesture.ofValue?_name g) node data).trans (Engine.run_inSpan_of_start starts rfl rfl)
  have callbacks := Host.maintains_notify (Began.leaves first.history)
    (fun _ told op (_ : True) => Began.maintains_exchange told op)
    (fun callback notice => (host.react callback notice).callsOnly_of_forall fun _ => trivial)
    depth
  obtain ⟨inside, grown⟩ := (Began.supports callbacks id).dispatch g node data first
    (List.prefix_refl _)
  let dispatched := (Engine.dispatch (host.notify depth) id g node data).run first
  obtain ⟨noted, finished⟩ := history_finish id (Engine.faultIn? dispatched.1) span
    (dispatched.2.modifyEngine id fun e => { e with span := (called.engine id).span })
  rw [Host.perform, Engine.exchange_executeNodeEvents runs]
  refine ⟨inside ++ noted, Act.replyTo (dispatched.1.map fun n : Nat => .value (.int n)), ?_⟩
  rw [World.history_record, finished, World.history_modifyEngine, ← grown,
    World.history_modifyEngine, opened]
  simp only [List.append_assoc, List.cons_append, List.nil_append]
  rfl

/-- The spans of an engine follow its dispatches, in every run and however deep callbacks nest, fail
or dispose the engine.  Whatever the engine is asked, it has the span in progress afterwards that it
had before.  A dispatch on an engine that traces opens a span of its own, and answers how many
events matched.  In the history of a run everything sent to the tracer is in its place: a skip is
noted on the span of the innermost dispatch in progress, and a count once on the span of the
dispatch that answers it. -/
theorem Host.spans_nested (host : Host σ) (depth : Nat) (p : Program σ α) (w : World σ) (id : Nat)
    (idle : (w.engine id).span = none) :
    (∀ (v : World σ) op,
      (((Engine.perform (host.notify depth) id op).run v).2.engine id).span =
        (v.engine id).span) ∧
    (∀ (v : World σ) session g node data, (v.engine id).tracer = .session session true →
      (v.engine id).isActive = true →
      ∃ inside reply, ((Act.exchange (.engine id (.executeNodeEvents node (.text g.name) data))
          (Host.perform (host.notify depth)
            (.engine id (.executeNodeEvents node (.text g.name) data)))).run v).2.history =
        v.history ++ (opening id session g node data v.spans ++ inside ++
          [.observed (.traced id (.finish ⟨v.spans, "canvasflow." ++ g.name⟩)),
            .answered (.engine id (.executeNodeEvents node (.text g.name) data)) reply])) ∧
    (∀ (v : World σ) node g data, (v.engine id).isActive = true →
      ((Engine.executeNodeEvents (host.notify depth) id node (.text g.name) data).run v).1 =
        ((Engine.recordOf id node).run v).1.map fun record =>
          (Engine.matching g ((Engine.eventsOf? record).getD [])).length) ∧
    ∃ h, ((host.run depth p).run w).2.history = w.history ++ h ∧ Throughout (InPlace id) h := by
  refine ⟨fun v op => host.span_perform depth id op v, fun v session g node data tracer active =>
    host.opens_span depth tracer active g node data, fun v node g data active =>
    Engine.answer_executeNodeEvents _ active g node data, ?_⟩
  have start : Follows w.history id ⟨[], []⟩ w := ⟨[], by simp, .nil idle⟩
  obtain ⟨h, history, tracks⟩ := host.maintains_each (Follows.leaves w.history id)
    (fun _ callbacks m => Follows.maintains_exchange m callbacks) depth p ⟨[], []⟩ w start
  exact ⟨h, history, tracks.inPlace⟩

/-- What is said of a span: that it was opened, that a skip or a count was noted on it, or that it
was finished. -/
inductive SpanNote where
  | opened (span : Nat)
  | skipped (span : Nat) (message : Option String)
  | matched (span : Nat) (count : Option Int)
  | finished (span : Nat)
deriving DecidableEq

/-- What an event says of a span. -/
def Event.spanNote? : Event → Option SpanNote
  | .observed (.traced _ (.start span _)) => some (.opened span.number)
  | .observed (.traced _ (.addEvent span _ attributes)) =>
    some (.skipped span.number ((Entries.lookup "message" attributes).bind Value.text?))
  | .observed (.traced _ (.setAttribute span _ (.int n))) => some (.matched span.number n)
  | .observed (.traced _ (.finish span)) => some (.finished span.number)
  | _ => none

/-- An engine that traces, and a host that on one alert triggers the node of it again and an unknown
node after it, and fails, and on another disposes the engine.  The skip that the fault leads to and
the count are noted on the outer span, and nothing is after the engine was disposed. -/
theorem Host.spans_nested_disposing :
    let click (node : String) : HostOp :=
      .engine 0 (.executeNodeEvents (.text node) (.text Gesture.click.name) .null)
    let host : Host Unit := ⟨fun _ notice =>
      match notice with
      | .alertShown (.text "again") =>
        .call (click "n1") fun _ => .call (click "gone") fun _ => .fail (.failure "host is gone")
      | .alertShown (.text "stop") => .call (.engine 0 .dispose) fun _ => .done ()
      | _ => .done ()⟩
    let alerting (text : String) : Value := .object [("events", .list
      [.object [("type", .text "onClick"),
        ("action", .object [("type", .text "showAlert"), ("value", .text text)])]])]
    let settings : EngineSettings := ⟨.bool false, .bool true, .text "WARNING"⟩
    let w := Slot.created (World.initial ⟨"preview", settings, none⟩ ())
      (.ofTables [] [(.text "n1", alerting "again"), (.text "n2", alerting "stop")]
        (Hooks.all (some ⟨"host", 0⟩)))
    let p : Program Unit Reply :=
      .call (click "n1") fun _ => .call (click "n2") fun _ => .ask (click "n1")
    (w.engine 0).span = none ∧ (w.engine 0).tracer = .session "preview" true ∧
    (w.engine 0).isActive = true ∧
    ((Engine.executeNodeEvents (host.notify 1) 0 (.text "n1") (.text "onClick") .null).run w).1 =
      .ok 1 ∧
    (∃ inside reply, ((Act.exchange (.engine 0 (.executeNodeEvents (.text "n1")
        (.text Gesture.click.name) .null)) (Host.perform (host.notify 1)
          (.engine 0 (.executeNodeEvents (.text "n1") (.text Gesture.click.name) .null)))).run
        w).2.history =
      w.history ++ (opening 0 "preview" .click (.text "n1") .null w.spans ++ inside ++
        [.observed (.traced 0 (.finish ⟨w.spans, "canvasflow." ++ Gesture.click.name⟩)),
          .answered (.engine 0 (.executeNodeEvents (.text "n1") (.text Gesture.click.name)
            .null)) reply])) ∧
    (∃ h, ((host.run 1 p).run w).2.history = w.history ++ h ∧ Throughout (InPlace 0) h) ∧
    ((host.run 1 p).run w).2.history.filterMap Event.spanNote? =
      [.opened 0, .opened 1, .matched 1 (some 1), .finished 1,
        .opened 2, .skipped 2 (some "onClick triggered on unknown node gone"), .finished 2,
        .skipped 0 (some "Error executing action on node n1: host is gone"),
        .matched 0 (some 1), .finished 0, .opened 3, .finished 3] := by
  intro click host alerting settings w p
  obtain ⟨-, opens, counts, follows⟩ := Host.spans_nested host 1 p w 0 rfl
  exact ⟨rfl, rfl, rfl, counts w (.text "n1") .click .null rfl,
    opens w "preview" .click (.text "n1") .null rfl rfl, follows, by decide +kernel⟩

end EventCanvas
