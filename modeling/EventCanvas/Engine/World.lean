import EventCanvas.Config
import EventCanvas.Engine.Diagnostic
import EventCanvas.Engine.Request
import EventCanvas.Log

/-!
# Engines and the world they run in

An `Engine` is a context with a lifecycle.  Engines live in a `World`, together
with the slot that may own one of them, the log, the history of everything that
happened, and the state of the host.  The history has the lives of engines and
the calls of the host in it; the trace is the part of it that was observable
from outside.

An `Act` is a step in a world that may fail.  What it did to the world before it
failed stays done.
-/

namespace EventCanvas

/-- What an engine tells its host. -/
inductive Notice where
  | variableChanged (name value : Value)
  | nodeUpdated (id updates : Value)
  | alertShown (message : Value)
  | diagnosed (d : Diagnostic)

namespace Notice

/-- The hook that a notice goes to. -/
def hook : Notice → Hook
  | variableChanged .. => .variableChange
  | nodeUpdated .. => .nodeUpdate
  | alertShown _ => .alert
  | diagnosed _ => .diagnostic

/-- What is passed with a notice. -/
def arguments : Notice → List Value
  | variableChanged name value => [name, value]
  | nodeUpdated id updates => [id, updates]
  | alertShown message => [message]
  | diagnosed d => [d.toValue]

end Notice

/-- Whether an engine can still be used. -/
inductive Lifecycle where
  | active
  | disposed
deriving DecidableEq, Inhabited

/-- The name of a state of life. -/
def Lifecycle.name : Lifecycle → String
  | active => "active"
  | disposed => "disposed"

/-- A span that was opened: its number and its name. -/
structure Span where
  number : Nat
  name : String
deriving DecidableEq, Inhabited

/-- What opens the spans of dispatches: a tracer for a session, which may be switched off, or one
that never does anything. -/
inductive Tracer where
  | session (name : String) (enabled : Bool)
  | silent
deriving DecidableEq, Inhabited

namespace Tracer

/-- The tracer of a session, where spans can be recorded only if `available` says so. -/
def direct (available : Bool) (name : String) (enable : Bool) : Tracer :=
  .session name (enable && available)

/-- The tracer of a session that traces, and the silent one for other sessions. -/
def make (available : Bool) (name : String) (enable : Bool) : Tracer :=
  if enable && available then .session name true else .silent

/-- Whether a tracer is switched on; the silent one has no switch. -/
def enabled? : Tracer → Option Bool
  | .session _ enabled => some enabled
  | .silent => none

/-- The name of the kind of a tracer. -/
def kindName : Tracer → String
  | .session .. => "CanvasflowTracer"
  | .silent => "NoopTracer"

end Tracer

/-- An event engine.  `span` is the span of the innermost dispatch in progress. -/
structure Engine where
  context : Context Callback
  settings : EngineSettings
  name : String
  lifecycle : Lifecycle
  tracer : Tracer
  span : Option Span

namespace Engine

/-- A new engine on a context. -/
def new (context : Context Callback) (settings : EngineSettings) (name : String) : Engine :=
  ⟨context, settings, name, .active, .make true name settings.traces, none⟩

/-- The engine after its context was released. -/
def dispose (e : Engine) : Engine :=
  match e.lifecycle with
  | .disposed => e
  | .active => { e with context := .empty, lifecycle := .disposed, tracer := .silent }

/-- What stands for an engine that there is not. -/
def absent : Engine := ⟨.empty, .initial, "", .disposed, .silent, none⟩

/-- Whether the engine can still be used. -/
def isActive (e : Engine) : Bool := e.lifecycle = .active

/-- The text of an engine. -/
def literal (e : Engine) : String :=
  "EventEngine(name=" ++ Text.quoted e.name ++ ", lifecycle=" ++ Text.quoted e.lifecycle.name ++ ")"

theorem isActive_dispose (e : Engine) : e.dispose.isActive = false := by
  rcases e with ⟨_, _, _, _ | _, _, _⟩ <;> rfl

end Engine

/-- What is sent to the tracer. -/
inductive SpanEvent where
  | getTracer (name version : String)
  | start (span : Span) (attributes : Fields)
  | setAttribute (span : Span) (key : String) (value : Value)
  | addEvent (span : Span) (name : String) (attributes : Fields)
  | setStatus (span : Span) (text : String)
  | recordFault (span : Span) (fault : Fault)
  | finish (span : Span)

/-- What a host puts into the trace: that it passed a notice on, or what a call it made inside
another answered. -/
inductive Note where
  | forwarded (callback : Callback) (notice : Notice)
  | reported (scope call : String) (answer : Reply)

/-- One observable event: an engine started a callback, sent something to the tracer, or the host
noted something. -/
inductive Observation where
  | started (engine : Nat) (callback : Callback) (notice : Notice)
  | traced (engine : Nat) (event : SpanEvent)
  | noted (note : Note)

/-- The owner of the one live engine of a canvas. -/
structure Slot where
  name : String
  settings : EngineSettings
  engine : Option Nat
deriving Inhabited

/-- Something that happened: an observable event, the beginning or the end of the life of an engine,
or a call that the host made and later what it was answered. -/
inductive Event where
  | observed (o : Observation)
  | created (engine : Nat)
  | disposed (engine : Nat)
  | called (op : HostOp)
  | answered (op : HostOp) (reply : Reply)

/-- What was observable of an event. -/
def Event.observation? : Event → Option Observation
  | observed o => some o
  | _ => none

/-- Everything there is: the engines created so far, the slot, the history, the log, how many spans
were opened, and the state of the host. -/
structure World (σ : Type) where
  engines : List Engine
  slot : Slot
  history : List Event
  log : List LogRecord
  spans : Nat
  host : σ

namespace World

variable {σ : Type}

/-- The engine with a number. -/
def engine (w : World σ) (id : Nat) : Engine := (w.engines[id]?).getD .absent

/-- Changes an engine. -/
def modifyEngine (w : World σ) (id : Nat) (f : Engine → Engine) : World σ :=
  { w with engines := w.engines.modify id f }

/-- Adds to the history. -/
def record (w : World σ) (e : Event) : World σ := { w with history := w.history ++ [e] }

/-- What was observable so far. -/
def trace (w : World σ) : List Observation := w.history.filterMap Event.observation?

/-- Disposes an engine.  Nothing happens if it was disposed before. -/
def dispose (w : World σ) (id : Nat) : World σ :=
  if (w.engine id).isActive then (w.modifyEngine id Engine.dispose).record (.disposed id) else w

/-- A world with a slot and nothing else. -/
def initial (slot : Slot) (host : σ) : World σ := ⟨[], slot, [], [], 0, host⟩

end World

/-- A step in a world that may fail. -/
abbrev Act (σ : Type) (α : Type) : Type := ExceptT Fault (StateM (World σ)) α

namespace Act

variable {σ α : Type}

/-- An engine of the world. -/
def engine (id : Nat) : Act σ Engine := return (← get).engine id

/-- Changes an engine of the world. -/
def modifyEngine (id : Nat) (f : Engine → Engine) : Act σ Unit :=
  modify fun w => w.modifyEngine id f

/-- Disposes an engine of the world. -/
def dispose (id : Nat) : Act σ Unit := modify fun w => w.dispose id

/-- Adds to the history. -/
def record (e : Event) : Act σ Unit := modify fun w => w.record e

/-- Adds to the trace. -/
def observe (o : Observation) : Act σ Unit := record (.observed o)

/-- Adds to the log. -/
def log (r : LogRecord) : Act σ Unit := modify fun w => { w with log := w.log ++ [r] }

/-- What there is, or a fault. -/
def ofExcept : Except Fault α → Act σ α
  | .ok a => pure a
  | .error f => throw f

/-- The outcome of a step, faults included. -/
def attempt (x : Act σ α) : Act σ (Except Fault α) :=
  tryCatch (do return .ok (← x)) fun f => return .error f

/-- The answer to a call: what a step answers, or the fault in which it ended. -/
def exchange (op : HostOp) (x : Act σ Reply) : Act σ Reply := do
  record (.called op)
  let reply ← tryCatch x fun f => return .failed f
  record (.answered op reply)
  return reply

/-- A number that no span has yet. -/
def freshSpan : Act σ Nat := modifyGet fun w => (w.spans, { w with spans := w.spans + 1 })

end Act

end EventCanvas
