import EventCanvas.Engine.Tracing
import EventCanvas.Proofs.History
import EventCanvas.Proofs.Slot

/-!
# Dispatches in progress

A known event that is triggered is dispatched, and on an engine that traces the
dispatch has a span of its own.  While it runs, callbacks may trigger the engine
again, fail, or dispose it; what is noted in the meantime goes to the span of the
innermost dispatch in progress.

* `dispatches id h`: the dispatches of an engine that a history leaves in progress,
  the innermost first, each from its call to its answer.
* `InPlace id`: an event of the tracer of an engine fits the dispatches around it.
* `Tracks id ds h w`: in the world `w`, after the events `h`, the engine has the
  dispatches `ds` in progress, and every event was in its place.
-/

namespace EventCanvas

variable {σ : Type} {id : Nat}

/-! ## Dispatches -/

/-- A dispatch: what was triggered, and the span that was opened for it, if one was. -/
structure Dispatch where
  node : Value
  kind : Value
  data : Value
  span : Option Span

/-- The call that a dispatch answers. -/
def Dispatch.op (id : Nat) (d : Dispatch) : HostOp :=
  .engine id (.executeNodeEvents d.node d.kind d.data)

/-- The dispatches of an engine in progress after an event.  A dispatch begins where a known event
is triggered and ends where that is answered; a span that is opened is that of the dispatch that
began last. -/
def Event.nest (id : Nat) (ds : List Dispatch) : Event → List Dispatch
  | .called (.engine i (.executeNodeEvents node kind data)) =>
    if i = id ∧ (Gesture.ofValue? kind).isSome then ⟨node, kind, data, none⟩ :: ds else ds
  | .answered (.engine i (.executeNodeEvents _ kind _)) _ =>
    if i = id ∧ (Gesture.ofValue? kind).isSome then ds.tail else ds
  | .observed (.traced i (.start span _)) =>
    if i = id then ds.modifyHead fun d => { d with span := some span } else ds
  | _ => ds

/-- The dispatches of an engine that a history leaves in progress, the innermost first. -/
def dispatches (id : Nat) (h : List Event) : List Dispatch := h.foldl (Event.nest id) []

theorem dispatches_append (h₁ h₂ : List Event) :
    dispatches id (h₁ ++ h₂) = h₂.foldl (Event.nest id) (dispatches id h₁) := List.foldl_append

/-- The span of the innermost of some dispatches. -/
def innermostSpan (ds : List Dispatch) : Option Span := ds.head?.bind Dispatch.span

/-- The spans of some dispatches. -/
def spansOf (ds : List Dispatch) : List Span := ds.filterMap Dispatch.span

theorem mem_spansOf_of_innermostSpan {ds : List Dispatch} {span : Span}
    (innermost : innermostSpan ds = some span) : span ∈ spansOf ds := by
  obtain ⟨d, first, opened⟩ := Option.bind_eq_some_iff.1 innermost
  exact List.mem_filterMap.2 ⟨d, List.mem_of_mem_head? first, opened⟩

/-- The span that something sent to the tracer is about. -/
def SpanEvent.span? : SpanEvent → Option Span
  | getTracer .. => none
  | start span _ | setAttribute span _ _ | addEvent span _ _ | setStatus span _
  | recordFault span _ | finish span => some span

theorem Diagnostic.kind_message_of_about? {kind : DiagnosticKind} {message : String} {node : Value}
    {detail : Fields} {d : Diagnostic} (about : about? kind message node detail = .ok d) :
    d.kind = kind ∧ d.message = message := by
  unfold about? at about
  cases read : Reading.under (.name "node_id") (Reading.optional Reading.text node) with
  | bad issues =>
    rw [read] at about
    cases about
  | ok node =>
    rw [read] at about
    cases about
    exact ⟨rfl, rfl⟩

/-! ## Events in their place -/

/-- A span is that of the innermost dispatch of an engine in progress, and the engine was not
disposed. -/
def Current (id : Nat) (past : List Event) (span : Span) : Prop :=
  innermostSpan (dispatches id past) = some span ∧ .disposed id ∉ past

/-- The innermost dispatch in progress has a span and is answered next. -/
def Answered (id : Nat) (past : List Event) (span : Span) (reply : Reply) (future : List Event) :
    Prop :=
  ∃ d rest, (dispatches id past).head? = some d ∧ d.span = some span ∧
    future = .answered (d.op id) reply :: rest

/-- Something sent to the tracer of an engine fits the dispatches around it.

* A span is opened where a dispatch has just begun, and is new.
* A skip is noted on the span of the innermost dispatch in progress, and not at all after the
  engine was disposed.
* A count is noted once on a span, while it is that of the innermost dispatch; then the span is
  finished, and this dispatch answers the count.
* The span of the innermost dispatch is finished just before that is answered; a count other than
  zero was noted, unless the engine was disposed. -/
def SpanEvent.InPlace (id : Nat) (past : List Event) (e : SpanEvent) (future : List Event) : Prop :=
  match e with
  | start span _ => (∀ e', .observed (.traced id e') ∈ past → e'.span? ≠ some span) ∧
    ∃ before node kind data, (Gesture.ofValue? kind).isSome ∧
      past = before ++ [.called (.engine id (.executeNodeEvents node kind data)),
        .observed (.traced id (.getTracer "canvasflow" "0.1.0"))]
  | addEvent span name _ => name = "canvasflow.skipped" ∧ Current id past span
  | setAttribute span key count =>
    key = "canvasflow.matched_events" ∧ Current id past span ∧
    (∀ key' count', .observed (.traced id (.setAttribute span key' count')) ∉ past) ∧
    ∃ rest, future = .observed (.traced id (.finish span)) :: rest ∧
      Answered id past span (.value count) rest
  | finish span =>
    ∃ reply, Answered id past span reply future ∧
      ∀ n : Int, reply = .value (.int n) → n ≠ 0 → .disposed id ∉ past →
        ∃ before, past = before ++ [.observed (.traced id (Tracer.matched (.int n) span))]
  | _ => True

/-- An event fits the dispatches of an engine around it.  A skip that is reported was noted just
before, if there is a span to note it on.  The innermost dispatch is answered first, and just after
its span was finished, if it has one. -/
def InPlace (id : Nat) (past : List Event) (e : Event) (future : List Event) : Prop :=
  match e with
  | .observed (.traced i e) => i = id → e.InPlace id past future
  | .observed (.started i _ (.diagnosed d)) => i = id → ∀ span, Current id past span →
    ∃ before, past = before ++
      [.observed (.traced id (Tracer.skipped d.kind.name d.message span))]
  | .answered (.engine i (.executeNodeEvents node kind data)) _ =>
    i = id → (Gesture.ofValue? kind).isSome → ∃ span,
      (dispatches id past).head? = some ⟨node, kind, data, span⟩ ∧
      ∀ s ∈ span, ∃ before, past = before ++ [.observed (.traced id (.finish s))]
  | _ => True

theorem Answered.later {past : List Event} {span : Span} {reply : Reply} {future : List Event}
    (answered : Answered id past span reply future) (more : List Event) :
    Answered id past span reply (future ++ more) := by
  obtain ⟨d, rest, innermost, opened, next⟩ := answered
  exact ⟨d, rest ++ more, innermost, opened, by rw [next]; rfl⟩

/-- What is in its place before some events is so before more. -/
theorem InPlace.later (past : List Event) (e : Event) (future more : List Event)
    (inPlace : InPlace id past e future) : InPlace id past e (future ++ more) := by
  cases e with
  | observed o =>
    cases o with
    | traced i e =>
      intro same
      have inPlace : e.InPlace id past future := inPlace same
      cases e with
      | setAttribute span key count =>
        obtain ⟨named, current, once, rest, finished, answered⟩ := inPlace
        exact ⟨named, current, once, rest ++ more, by rw [finished]; rfl, answered.later more⟩
      | finish span =>
        obtain ⟨reply, answered, counted⟩ := inPlace
        exact ⟨reply, answered.later more, counted⟩
      | _ => exact inPlace
    | started i callback notice => cases notice <;> exact inPlace
    | noted note => trivial
  | answered op reply =>
    cases op with
    | engine i op => cases op <;> exact inPlace
    | slot op => trivial
  | _ => trivial

/-- An event that has nothing to do with the dispatches of an engine. -/
def Event.Aside (id : Nat) : Event → Prop
  | .observed (.traced i _) => i ≠ id
  | .observed (.started i _ (.diagnosed _)) => i ≠ id
  | .disposed i => i ≠ id
  | .called (.engine i (.executeNodeEvents _ kind _))
  | .answered (.engine i (.executeNodeEvents _ kind _)) _ =>
    ¬ (i = id ∧ (Gesture.ofValue? kind).isSome)
  | _ => True

theorem Event.Aside.inPlace {e : Event} (aside : e.Aside id) (past future : List Event) :
    InPlace id past e future := by
  unfold InPlace
  split
  · exact fun same => absurd same aside
  · exact fun same => absurd same aside
  · exact fun same known => absurd ⟨same, known⟩ aside
  · trivial

theorem Event.Aside.nest {e : Event} (aside : e.Aside id) (ds : List Dispatch) :
    e.nest id ds = ds := by
  unfold Event.nest
  split <;> first | exact if_neg aside | rfl

/-! ## The invariant -/

/-- After some events an engine has the given dispatches in progress, and each event was in its
place. -/
structure Tracks (id : Nat) (ds : List Dispatch) (h : List Event) (w : World σ) : Prop where
  inPlace : Throughout (InPlace id) h
  nested : dispatches id h = ds
  current : (w.engine id).span = innermostSpan ds
  inside : ds ≠ [] → id < w.engines.length
  /-- Spans are open only while their engine traces, or after it was disposed. -/
  traces : spansOf ds ≠ [] → .disposed id ∉ h → ∃ name, (w.engine id).tracer = .session name true
  ended : .disposed id ∈ h →
    id < w.engines.length ∧ (w.engine id).isActive = false ∧ (w.engine id).tracer = .silent
  uncounted : ∀ span ∈ spansOf ds, ∀ key count,
    .observed (.traced id (.setAttribute span key count)) ∉ h
  distinct : (spansOf ds).Nodup
  fresh : ∀ span ∈ spansOf ds, span.number < w.spans
  known : ∀ e span, .observed (.traced id e) ∈ h → e.span? = some span → span.number < w.spans

namespace Tracks

variable {ds : List Dispatch} {d : Dispatch} {h : List Event} {w v : World σ} {e : Event}

/-- At the beginning an engine without a span in progress has no dispatch in progress. -/
theorem nil (idle : (w.engine id).span = none) : Tracks id [] [] w where
  inPlace := .nil
  nested := rfl
  current := idle
  inside absurd := (absurd rfl).elim
  traces absurd := (absurd rfl).elim
  ended member := nomatch member
  uncounted _ member := nomatch member
  distinct := .nil
  fresh _ member := nomatch member
  known _ _ member := nomatch member

/-- A dispatch with a span open is in progress only on an engine that there is. -/
theorem inside_of_spansOf (tracks : Tracks id ds h w) (some : spansOf ds ≠ []) :
    id < w.engines.length :=
  tracks.inside fun none => some (by rw [none]; rfl)

/-- What leaves the tracer and the span of the engine alone keeps the invariant. -/
theorem of_world (tracks : Tracks id ds h w) (span : (v.engine id).span = (w.engine id).span)
    (kept : id < w.engines.length → (v.engine id).tracer = (w.engine id).tracer ∧
      (v.engine id).isActive = (w.engine id).isActive)
    (engines : w.engines.length ≤ v.engines.length) (numbers : w.spans ≤ v.spans) :
    Tracks id ds h v where
  inPlace := tracks.inPlace
  nested := tracks.nested
  current := span.trans tracks.current
  inside some := Nat.lt_of_lt_of_le (tracks.inside some) engines
  traces some alive := by
    rw [(kept (tracks.inside_of_spansOf some)).1]
    exact tracks.traces some alive
  ended member := by
    obtain ⟨inside, inactive, silent⟩ := tracks.ended member
    obtain ⟨tracer, active⟩ := kept inside
    exact ⟨Nat.lt_of_lt_of_le inside engines, active.trans inactive, tracer.trans silent⟩
  uncounted := tracks.uncounted
  distinct := tracks.distinct
  fresh span member := Nat.lt_of_lt_of_le (tracks.fresh span member) numbers
  known e span member about := Nat.lt_of_lt_of_le (tracks.known e span member about) numbers

/-- What changes another engine, or neither the tracer nor the span of this one, keeps the
invariant. -/
theorem modifyEngine (tracks : Tracks id ds h w) (i : Nat) {f : Engine → Engine}
    (kept : i = id → (f (w.engine id)).span = (w.engine id).span ∧
      (f (w.engine id)).tracer = (w.engine id).tracer ∧
      (f (w.engine id)).isActive = (w.engine id).isActive) :
    Tracks id ds h (w.modifyEngine i f) := by
  have engines : w.engines.length ≤ (w.modifyEngine i f).engines.length := by
    simp [World.modifyEngine]
  rcases w.engine_modifyEngine_eq_or i id f with same | ⟨hit, same⟩
  · exact tracks.of_world (by rw [same]) (fun _ => by rw [same]; exact ⟨rfl, rfl⟩) engines
      (Nat.le_refl _)
  · obtain ⟨span, tracer, active⟩ := kept hit
    exact tracks.of_world (by rw [same, span]) (fun _ => by rw [same]; exact ⟨tracer, active⟩)
      engines (Nat.le_refl _)

/-- An event in its place with which no dispatch begins, is counted or ends keeps the invariant. -/
theorem record (tracks : Tracks id ds h w) (inPlace : InPlace id h e [])
    (nested : e.nest id ds = ds) (alive : e ≠ .disposed id)
    (about : ∀ e', e = .observed (.traced id e') →
      (∀ span key count, e' ≠ .setAttribute span key count) ∧
      ∀ span, e'.span? = some span → span ∈ spansOf ds) :
    Tracks id ds (h ++ [e]) (w.record e) where
  inPlace := tracks.inPlace.append InPlace.later (.single (by rwa [List.append_nil]))
  nested := by
    rw [dispatches_append, tracks.nested]
    exact nested
  current := tracks.current
  inside := tracks.inside
  traces some notIn := tracks.traces some fun member => notIn (List.mem_append_left _ member)
  ended member := by
    rcases List.mem_append.1 member with member | member
    · exact tracks.ended member
    · exact absurd (List.mem_singleton.1 member).symm alive
  uncounted span open_ key count member := by
    rcases List.mem_append.1 member with member | member
    · exact tracks.uncounted span open_ key count member
    · exact (about _ (List.mem_singleton.1 member).symm).1 span key count rfl
  distinct := tracks.distinct
  fresh := tracks.fresh
  known e' span member of := by
    rcases List.mem_append.1 member with member | member
    · exact tracks.known e' span member of
    · exact tracks.fresh span ((about _ (List.mem_singleton.1 member).symm).2 span of)

theorem aside (tracks : Tracks id ds h w) (aside : e.Aside id) :
    Tracks id ds (h ++ [e]) (w.record e) :=
  tracks.record (aside.inPlace _ _) (aside.nest _) (fun same => by subst same; exact aside rfl)
    fun e' same => by subst same; exact absurd rfl aside

/-- An engine that is disposed keeps its dispatches in progress, and notes nothing on their spans
any more. -/
theorem dispose_self (tracks : Tracks id ds h w) (active : (w.engine id).isActive = true) :
    Tracks id ds (h ++ [.disposed id]) (w.dispose id) := by
  have same := World.engine_dispose w id
  rw [Engine.dispose_of_isActive active] at same
  have length : (w.dispose id).engines.length = w.engines.length := by
    simp [World.dispose_of_isActive active, World.record, World.modifyEngine]
  have numbers : (w.dispose id).spans = w.spans := by
    rw [World.dispose_of_isActive active]
    rfl
  exact
    { inPlace := tracks.inPlace.append InPlace.later (.single trivial)
      nested := by
        rw [dispatches_append, tracks.nested]
        rfl
      current := by
        rw [same]
        exact tracks.current
      inside := fun some => by
        rw [length]
        exact tracks.inside some
      traces := fun _ alive => absurd (List.mem_append_right h (List.mem_singleton.2 rfl)) alive
      ended := fun _ => by
        rw [same, length]
        exact ⟨World.lt_length_of_isActive active, rfl, rfl⟩
      uncounted := fun span open_ key count member =>
        tracks.uncounted span open_ key count (by simpa using member)
      distinct := tracks.distinct
      fresh := by
        rw [numbers]
        exact tracks.fresh
      known := fun e span member => by
        rw [numbers]
        exact tracks.known e span (by simpa using member) }

theorem dispose (tracks : Tracks id ds h w) (i : Nat) :
    ∃ new, (w.dispose i).history = w.history ++ new ∧ Tracks id ds (h ++ new) (w.dispose i) := by
  cases active : (w.engine i).isActive with
  | false =>
    rw [World.dispose_of_not_isActive active]
    exact ⟨[], (List.append_nil _).symm, by rwa [List.append_nil]⟩
  | true =>
    refine ⟨[.disposed i], by rw [World.dispose_of_isActive active]; rfl, ?_⟩
    by_cases hit : i = id
    · subst hit
      exact tracks.dispose_self active
    · rw [World.dispose_of_isActive active]
      exact (tracks.modifyEngine i fun same => absurd same hit).aside hit

/-- A new engine leaves the dispatches alone, also if it is this one. -/
theorem created (tracks : Tracks id ds h w) (context : Context Callback) :
    Tracks id ds (h ++ [.created w.engines.length]) (Slot.created w context) := by
  have aside : Tracks id ds (h ++ [.created w.engines.length])
      (w.record (.created w.engines.length)) := tracks.aside trivial
  have more : w.engines.length ≤ (Slot.created w context).engines.length := by
    simp [Slot.created]
  refine aside.of_world ?_ (fun inside => ?_) more (Nat.le_refl _)
  · rw [Slot.engine_created_eq_ite, World.engine_record]
    split
    · next new =>
      subst new
      rw [World.engine, List.getElem?_eq_none (Nat.le_refl _)]
      rfl
    · rfl
  · rw [Slot.engine_created_of_ne w context (Nat.ne_of_lt inside)]
    exact ⟨rfl, rfl⟩

/-! ## Notes on a span -/

/-- An engine adds to the span of the innermost dispatch in progress, until it is disposed. -/
theorem target_eq_some_iff (tracks : Tracks id ds h w) (span : Span) :
    (w.engine id).tracer.target (w.engine id).span = some span ↔ Current id h span := by
  rw [tracks.current, Current, tracks.nested]
  constructor
  · intro target
    cases tracer : (w.engine id).tracer with
    | silent =>
      rw [tracer] at target
      cases target
    | session name enabled =>
      rw [tracer] at target
      refine ⟨target, fun member => ?_⟩
      have silent := (tracks.ended member).2.2
      rw [tracer] at silent
      cases silent
  · rintro ⟨innermost, alive⟩
    obtain ⟨name, tracer⟩ := tracks.traces
      (List.ne_nil_of_mem (mem_spansOf_of_innermostSpan innermost)) alive
    rw [tracer]
    exact innermost

theorem mem_of_current (tracks : Tracks id ds h w) {span : Span} (current : Current id h span) :
    span ∈ spansOf ds := by
  rw [← tracks.nested]
  exact mem_spansOf_of_innermostSpan current.1

/-- Noting a skip on the span of the innermost dispatch in progress keeps the invariant. -/
theorem skipped (tracks : Tracks id ds h w) {span : Span} (current : Current id h span)
    (kind message : String) :
    Tracks id ds (h ++ [.observed (.traced id (Tracer.skipped kind message span))])
      (w.record (.observed (.traced id (Tracer.skipped kind message span)))) := by
  refine tracks.record (fun _ => ⟨rfl, current⟩) rfl (by simp) fun e' same => ?_
  obtain rfl : Tracer.skipped kind message span = e' := by simpa using same
  refine ⟨fun _ _ _ => by simp [Tracer.skipped], fun other about => ?_⟩
  obtain rfl : span = other := by simpa [SpanEvent.span?, Tracer.skipped] using about
  exact tracks.mem_of_current current

/-- Reporting a skip that was noted keeps the invariant. -/
theorem reported (tracks : Tracks id ds h w) (callback : Callback) {d : Diagnostic}
    (noted : ∀ span, Current id h span → ∃ before, h = before ++
      [.observed (.traced id (Tracer.skipped d.kind.name d.message span))]) :
    Tracks id ds (h ++ [.observed (.started id callback (.diagnosed d))])
      (w.record (.observed (.started id callback (.diagnosed d)))) :=
  tracks.record (fun _ => noted) rfl (by simp) (by simp)

/-! ## Beginning and ending -/

/-- A dispatch begins, with a span of its own or without one, which is now the one in progress. -/
theorem begins (tracks : Tracks id ds h w) (active : (w.engine id).isActive = true)
    (opening : List Event) (inPlace : Throughout (fun past => InPlace id (h ++ past)) opening)
    (nested : opening.foldl (Event.nest id) ds = d :: ds) (alive : .disposed id ∉ opening)
    (about : ∀ e, .observed (.traced id e) ∈ opening →
      (∀ span key count, e ≠ .setAttribute span key count) ∧
      ∀ span, e.span? = some span → d.span = some span)
    (traces : d.span ≠ none → ∃ name, (w.engine id).tracer = .session name true)
    (new : ∀ span ∈ d.span, span.number = w.spans ∧ w.spans < v.spans)
    (engine : v.engine id = { w.engine id with span := d.span })
    (length : v.engines.length = w.engines.length) (numbers : w.spans ≤ v.spans) :
    Tracks id (d :: ds) (h ++ opening) v := by
  have notIn : .disposed id ∉ h := fun member => by
    rw [(tracks.ended member).2.1] at active
    cases active
  have notYet : .disposed id ∉ h ++ opening := by simp [notIn, alive]
  have spans : ∀ span ∈ spansOf (d :: ds), d.span = some span ∨ span ∈ spansOf ds := by
    simp [spansOf, List.mem_filterMap]
  have older : ∀ span ∈ spansOf ds, d.span ≠ some span := fun span member same => by
    have below := tracks.fresh span member
    rw [(new span same).1] at below
    exact absurd below (Nat.lt_irrefl _)
  exact
    { inPlace := tracks.inPlace.append InPlace.later inPlace
      nested := by rw [dispatches_append, tracks.nested, nested]
      current := by
        rw [engine]
        rfl
      inside := fun _ => by
        rw [length]
        exact World.lt_length_of_isActive active
      traces := fun some _ => by
        rw [engine]
        obtain ⟨span, member⟩ := List.exists_mem_of_ne_nil _ some
        rcases spans span member with own | outer
        · exact traces (by rw [own]; exact Option.some_ne_none _)
        · exact tracks.traces (List.ne_nil_of_mem outer) notIn
      ended := fun member => absurd member notYet
      uncounted := fun span open_ key count member => by
        rcases List.mem_append.1 member with member | member
        · rcases spans span open_ with own | outer
          · have below := tracks.known _ _ member rfl
            rw [(new span own).1] at below
            exact absurd below (Nat.lt_irrefl _)
          · exact tracks.uncounted span outer key count member
        · exact (about _ member).1 span key count rfl
      distinct := by
        cases opened : d.span with
        | none => simpa [spansOf, opened] using tracks.distinct
        | some span =>
          have here : spansOf (d :: ds) = span :: spansOf ds := List.filterMap_cons_some opened
          rw [here]
          exact List.nodup_cons.2 ⟨fun member => older span member opened, tracks.distinct⟩
      fresh := fun span open_ => by
        rcases spans span open_ with own | outer
        · rw [(new span own).1]
          exact (new span own).2
        · exact Nat.lt_of_lt_of_le (tracks.fresh span outer) numbers
      known := fun e span member of => by
        rcases List.mem_append.1 member with member | member
        · exact Nat.lt_of_lt_of_le (tracks.known e span member of) numbers
        · have own := (about e member).2 span of
          rw [(new span own).1]
          exact (new span own).2 }

/-- A dispatch that ends finishes its span, and the one from before is in progress again. -/
theorem finish (tracks : Tracks id (d :: ds) h w) (closing : List Event)
    (inPlace : Throughout (fun past => InPlace id (h ++ past)) closing)
    (nested : closing.foldl (Event.nest id) (d :: ds) = ds) (alive : .disposed id ∉ closing)
    (about : ∀ e, .observed (.traced id e) ∈ closing → ∃ span, e.span? = some span ∧
      d.span = some span)
    (engine : v.engine id = { w.engine id with span := innermostSpan ds })
    (length : v.engines.length = w.engines.length) (numbers : v.spans = w.spans) :
    Tracks id ds (h ++ closing) v := by
  have outer : ∀ span ∈ spansOf ds, span ∈ spansOf (d :: ds) ∧ d.span ≠ some span := by
    intro span member
    refine ⟨?_, fun own => ?_⟩
    · obtain ⟨d', inside, opened⟩ := List.mem_filterMap.1 member
      exact List.mem_filterMap.2 ⟨d', List.mem_cons_of_mem _ inside, opened⟩
    · have here : spansOf (d :: ds) = span :: spansOf ds := List.filterMap_cons_some own
      have distinct := tracks.distinct
      rw [here] at distinct
      exact (List.nodup_cons.1 distinct).1 member
  exact
    { inPlace := tracks.inPlace.append InPlace.later inPlace
      nested := by rw [dispatches_append, tracks.nested, nested]
      current := by rw [engine]
      inside := fun _ => by
        rw [length]
        exact tracks.inside (List.cons_ne_nil _ _)
      traces := fun some notIn => by
        rw [engine]
        obtain ⟨span, member⟩ := List.exists_mem_of_ne_nil _ some
        exact tracks.traces (List.ne_nil_of_mem (outer span member).1)
          fun member => notIn (List.mem_append_left _ member)
      ended := fun member => by
        rw [engine, length]
        exact tracks.ended ((List.mem_append.1 member).resolve_right alive)
      uncounted := fun other open_ key count member => by
        rcases List.mem_append.1 member with member | member
        · exact tracks.uncounted other (outer other open_).1 key count member
        · obtain ⟨span, same, own⟩ := about _ member
          obtain rfl : other = span := Option.some.inj same
          exact (outer other open_).2 own
      distinct := by
        have distinct := tracks.distinct
        unfold spansOf at distinct ⊢
        rw [List.filterMap_cons] at distinct
        split at distinct
        · exact distinct
        · exact (List.nodup_cons.1 distinct).2
      fresh := fun other open_ => by
        rw [numbers]
        exact tracks.fresh other (outer other open_).1
      known := fun e other member of => by
        rw [numbers]
        rcases List.mem_append.1 member with member | member
        · exact tracks.known e other member of
        · obtain ⟨span, same, own⟩ := about e member
          obtain rfl : span = other := Option.some.inj (same.symm.trans of)
          exact tracks.fresh span (List.mem_filterMap.2 ⟨d, List.mem_cons_self, own⟩) }

/-- A call to trigger a known event on an engine that is not active is answered at once: nothing is
dispatched. -/
theorem ignored (tracks : Tracks id ds h w) (node : Value) {kind : Value}
    (known : (Gesture.ofValue? kind).isSome = true) (data : Value) (reply : Reply) :
    Tracks id ds (h ++ [.called (.engine id (.executeNodeEvents node kind data)),
        .answered (.engine id (.executeNodeEvents node kind data)) reply])
      ((w.record (.called (.engine id (.executeNodeEvents node kind data)))).record
        (.answered (.engine id (.executeNodeEvents node kind data)) reply)) := by
  have begun : dispatches id (h ++ [.called (.engine id (.executeNodeEvents node kind data))]) =
      ⟨node, kind, data, none⟩ :: ds := by
    rw [dispatches_append, tracks.nested]
    simp [Event.nest, known]
  exact
    { inPlace := tracks.inPlace.append InPlace.later (.cons trivial
        (.single fun _ _ => ⟨none, by rw [begun]; rfl, fun _ none => nomatch none⟩))
      nested := by
        rw [dispatches_append, tracks.nested]
        simp [Event.nest, known]
      current := tracks.current
      inside := tracks.inside
      traces := fun some alive => tracks.traces some fun member => alive (by simp [member])
      ended := fun member => tracks.ended (by simpa using member)
      uncounted := fun span open_ key count member =>
        tracks.uncounted span open_ key count (by simpa using member)
      distinct := tracks.distinct
      fresh := tracks.fresh
      known := fun e span member => tracks.known e span (by simpa using member) }

end Tracks

end EventCanvas
