import EventCanvas.Proofs.Engine.Execution
import EventCanvas.Proofs.Table

/-!
# Dispatch runs a snapshot

When the events of a node are to run, those of the wanted kind are picked out
once, and then run one after the other.  Callbacks may replace the records,
trigger nodes again, fail, or dispose the engine while that goes on; what was
picked out stays the same.

* `Engine.Each step events w v`: from `w` to `v` there is one step for each of the
  events, in their order.
* `Engine.Attempts`: the step of running one event to its normal end.
* `Engine.runs_snapshot`: a dispatch is, but for tracing, one attempt for each event
  picked out when it began, and it answers how many there are.
-/

namespace EventCanvas.Engine

variable {σ : Type} {id : Nat}

/-! ## One step for each event -/

/-- From one world to another there is a step for each event, in order. -/
inductive Each (step : Value → World σ → World σ → Prop) : List Value → World σ → World σ → Prop
  | nil (w : World σ) : Each step [] w w
  | cons {event : Value} {events : List Value} {w u v : World σ} :
    step event w u → Each step events u v → Each step (event :: events) w v

namespace Each

variable {step : Value → World σ → World σ → Prop} {events before after : List Value}
  {u v w : World σ}

theorem of_append (each : Each step (before ++ after) w v) :
    ∃ u, Each step before w u ∧ Each step after u v := by
  induction before generalizing w with
  | nil => exact ⟨w, .nil w, each⟩
  | cons event before ih =>
    cases each with
    | cons first rest =>
      obtain ⟨u, front, back⟩ := ih rest
      exact ⟨u, .cons first front, back⟩

/-- Steps that end in one world only lead to one world. -/
theorem unique (left : Each step events w u) (right : Each step events w v)
    (one : ∀ event w u v, step event w u → step event w v → u = v) : u = v := by
  induction left with
  | nil w =>
    cases right with
    | nil => rfl
  | cons first _ ih =>
    cases right with
    | cons first' rest' =>
      rw [one _ _ _ _ first' first] at rest'
      exact ih rest'

end Each

/-- An event is run from one world to another, and ends normally. -/
def Attempts (notify : Notify σ) (id : Nat) (node data event : Value) (w v : World σ) : Prop :=
  (executeEvent notify id event node data).run w = (.ok (), v)

variable {notify : Notify σ} {node data : Value} {event : Value} {events : List Value}
  {u v w : World σ}

theorem Attempts.unique (left : Attempts notify id node data event w u)
    (right : Attempts notify id node data event w v) : u = v :=
  congrArg Prod.snd (left.symm.trans right)

/-! ## Attempts on an engine that was disposed -/

theorem mem_matching {g : Gesture} :
    event ∈ matching g events ↔ event ∈ events ∧ event.fieldOf "type" = .text g.name := by
  unfold matching
  rw [List.mem_filter]
  exact and_congr_right fun _ => Value.beq_text g.name _

theorem run_executeEvent_of_active (active : (w.engine id).isActive = true) {g : Gesture}
    (kind : event.fieldOf "type" = .text g.name) :
    (executeEvent notify id event node data).run w =
      (runEvent notify id g event node data).run w := by
  unfold executeEvent
  rw [Act.run_bind_of_ok (Act.run_engine id w), active, kind, Gesture.ofValue?_name]
  rfl

/-! ## The dispatch -/

/-- With event data as hosts pass them no event fails, so there is nothing for the guard around it
to catch. -/
theorem each_attemptEvents (notify : Notify σ) (id : Nat) (g : Gesture) (node : Value)
    (given : data.IsEventData) (events : List Value) (w : World σ) :
    ∃ v, (attemptEvents notify id g node data events).run w = (.ok (), v) ∧
      Each (Attempts notify id node data) events w v := by
  induction events generalizing w with
  | nil => exact ⟨w, rfl, .nil w⟩
  | cons event events ih =>
    obtain ⟨u, attempted⟩ := (succeeds_executeEvent notify id event node given).run w
    obtain ⟨v, run, each⟩ := ih u
    have guarded : (attemptEvent notify id g node data event).run w = (.ok (), u) := by
      unfold attemptEvent Engine.guarded
      rw [Act.run_tryCatch, attempted]
    exact ⟨v, (Act.run_bind_of_ok guarded _).trans run, .cons attempted each⟩

theorem sent_traceOpen (id : Nat) (event : Span → SpanEvent) (w : World σ) :
    ∃ events, (traceOpen id event).run w = (.ok (), w.sent id events) := by
  rw [run_traceOpen]
  cases (w.engine id).tracer.target (w.engine id).span with
  | none => exact ⟨[], by rw [World.sent_nil]⟩
  | some span => exact ⟨[event span], rfl⟩

theorem run_dispatch_of_list (notify : Notify σ) (g : Gesture) {node : String} {record : Value}
    (tables : (w.engine id).context.misfits.nodes = none)
    (found : Entries.lookup (.text node) (w.engine id).context.nodes = some record)
    (listed : record.fieldOf "events" = .list events) :
    (dispatch notify id g (.text node) data).run w =
      (runMatching notify id g (.text node) data events).run w := by
  have present : record.isNull = false := by
    cases record with
    | null => cases listed
    | _ => rfl
  have row : eventsOf? record = some events := by
    unfold eventsOf?
    rw [listed]
  unfold dispatch
  rw [Act.run_bind_of_ok (run_recordOf tables node), Effect.recordAt, found, Option.getD_some,
    present, row]
  rfl

/-- The events of one kind of a node are attempted one after the other, and nothing else is done but
for tracing. -/
theorem run_executeNodeEvents (notify : Notify σ) (g : Gesture) {node : String} {record : Value}
    (active : (w.engine id).isActive = true)
    (tables : (w.engine id).context.misfits.nodes = none)
    (found : Entries.lookup (.text node) (w.engine id).context.nodes = some record)
    (listed : record.fieldOf "events" = .list events) (given : data.IsEventData) :
    ∃ first last v,
      (executeNodeEvents notify id (.text node) (.text g.name) data).run w =
        (.ok (matching g events).length, v) ∧
      w.Traced id first ∧
      Each (Attempts notify id (.text node) data) (matching g events) first last ∧
      last.Traced id v := by
  obtain ⟨first, opened, v, run, closed⟩ :=
    run_inSpan id g (.text node) (dispatch notify id g (.text node) data) w
  obtain ⟨span, same⟩ := opened.engine id
  obtain ⟨last, attempted, each⟩ :=
    each_attemptEvents notify id g (.text node) given (matching g events) first
  obtain ⟨counted, counts⟩ :=
    sent_traceOpen id (Tracer.matched (.int (matching g events).length)) last
  have dispatched : (dispatch notify id g (.text node) data).run first =
      (.ok (matching g events).length, last.sent id counted) := by
    rw [run_dispatch_of_list notify g (by rw [same]; exact tables) (by rw [same]; exact found)
      listed]
    unfold runMatching
    rw [Act.run_bind_of_ok attempted, Act.run_bind_of_ok counts]
    rfl
  rw [dispatched] at run closed
  refine ⟨first, last, v,
    (run_executeNodeEvents_of_active notify active (Gesture.ofValue?_name g) _ _).trans run, opened,
    each, ?_⟩
  obtain ⟨sent, history⟩ := closed.history
  refine ⟨closed.engines, ⟨counted ++ sent, ?_⟩, closed.slot, closed.log, closed.host⟩
  rw [history, World.sent, List.append_assoc, List.map_append]

end EventCanvas.Engine
