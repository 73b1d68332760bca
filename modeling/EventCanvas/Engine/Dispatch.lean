import EventCanvas.Engine.Access
import EventCanvas.Engine.Coercion
import EventCanvas.Engine.Tracing

/-!
# Running actions and events

`executeNodeEvents` runs the handlers of a node for one event, `executeEvent`
one handler and `executeAction` one action.  What cannot be run is skipped: it
is logged, noted on the span of the dispatch in progress, and reported to the
host as a diagnostic.  Faults of callbacks are reported in the same way and go
no further.
-/

namespace EventCanvas.Engine

variable {σ : Type}

/-! ## Skipping -/

/-- Sends an event about the span in progress to the tracer. -/
def traceOpen (id : Nat) (event : Span → SpanEvent) : Act σ Unit := do
  let e ← Act.engine id
  e.tracer.send id e.span event

/-- How serious it is that something was skipped. -/
def skipLevel (kind : DiagnosticKind) : Level :=
  if kind = .callbackError then .error else .warning

/-- A reason for skipping something. -/
structure Skip where
  kind : DiagnosticKind
  message : String
  nodeId : Value
  detail : Fields

/-- The log record of a skip. -/
def Skip.record (s : Skip) : LogRecord :=
  ⟨skipLevel s.kind, "engine", s.message, s.kind = .callbackError⟩

/-- The event on the span for a skip. -/
def Skip.spanEvent (s : Skip) : Span → SpanEvent := Tracer.skipped s.kind.name s.message

/-- Reports a skip to the diagnostic hook, if one is bound.  A node that is not named by a text
cannot be reported. -/
def reportSkip (notify : Notify σ) (id : Nat) (s : Skip) : Act σ Unit := do
  if (← Act.engine id).context.hooks.diagnostic.isSome then
    match Diagnostic.about? s.kind s.message s.nodeId s.detail with
    | .bad issues => throw (.invalid issues)
    | .ok d => tell notify id (.diagnosed d)

/-- What is logged when the diagnostic hook fails. -/
def hookFault (f : Fault) : LogRecord :=
  ⟨.warning, "engine", "Diagnostic hook raised, continuing: " ++ f.text, false⟩

/-- Skips something: logs it, notes it on the span and reports it.  It never fails. -/
def skip (notify : Notify σ) (id : Nat) (s : Skip) : Act σ Unit := do
  Act.log s.record
  traceOpen id s.spanEvent
  tryCatch (reportSkip notify id s) fun f => Act.log (hookFault f)

/-- Runs a step and turns its fault, if there is one, into a skip. -/
def guarded (notify : Notify σ) (id : Nat) (x : Act σ Unit) (onFault : Fault → Skip) :
    Act σ Unit :=
  tryCatch x fun f => skip notify id (onFault f)

/-! ## Actions -/

/-- An issue as it is detailed in a diagnostic. -/
def issueDetail (i : Issue) : Value :=
  .object
    [("type", .text i.problem.code),
      ("loc", .tuple (i.path.map fun
        | .name s => .text s
        | .index n => .int n)),
      ("msg", .text i.problem.message), ("input", i.input)]

/-- The skip of an action of an unknown kind. -/
def unknownAction (source : Value) (what : String) (detail : Fields) : Skip :=
  ⟨.unknownAction, "Unknown action type: " ++ what, source, detail⟩

/-- The skip of an action that does not read well. -/
def malformedAction (source tag : Value) (issues : List Issue) : Skip :=
  ⟨.invalidAction, "Malformed " ++ tag.message ++ " action on node " ++ source.message ++ ": " ++
    toString issues.length ++ " validation error(s)", source,
    [("errors", .list (issues.map issueDetail))]⟩

/-- A text of an action, with the references in it replaced if the engine does so. -/
def evaluated (id : Nat) (text : String) : Act σ String := do
  if (← Act.engine id).settings.interpolates then evaluate id (.text text) else return text

/-- The value and the target of an action, with the references in them replaced if the engine does
so. -/
def evaluatedParts (id : Nat) (target : Option String) (value : String) :
    Act σ (Option String × String) := do
  let value ← evaluated id value
  match target with
  | none => return (none, value)
  | some t => return (some (← evaluated id t), value)

/-- The node that a relabelling is aimed at: its target, or the node it comes from if the target
is missing or empty. -/
def labelTarget (target : Option String) (source : Value) : Value :=
  match target with
  | none => source
  | some t => if t = "" then source else .text t

/-- The skip of a relabelling that is aimed at nothing. -/
def noLabelTarget : Skip :=
  ⟨.missingTarget, "setText action has no target and no source node", .null, []⟩

/-- The skip of a relabelling that is aimed at an unknown node. -/
def unknownLabelTarget (source target : Value) : Skip :=
  ⟨.unknownNode, "setText target node " ++ target.message ++ " does not exist", source,
    [("target", target)]⟩

/-- Relabels a node. -/
def runSetText (notify : Notify σ) (id : Nat) (source : Value) (target : Option String)
    (value : String) : Act σ Unit := do
  let node := labelTarget target source
  if !node.truthy then skip notify id noLabelTarget
  else
    if ← hasNode id node then setNodeText notify id node (.text value)
    else skip notify id (unknownLabelTarget source node)

/-- The skip of a write to no variable. -/
def noVariable (source : Value) : Skip :=
  ⟨.missingTarget, "setVariable action on node " ++ source.message ++ " has no target", source, []⟩

/-- Writes a variable for an action. -/
def runSetVariable (notify : Notify σ) (id : Nat) (source : Value) (target : Option String)
    (value : String) : Act σ Unit :=
  match target with
  | none => skip notify id (noVariable source)
  | some t =>
    if t = "" then skip notify id (noVariable source)
    else setVariable notify id (.text t) (.text value)

/-- Runs an action whose texts are final. -/
def runAction (notify : Notify σ) (id : Nat) (source : Value) (a : Action) : Act σ Unit :=
  match a.kind with
  | .setText => runSetText notify id source a.target a.value
  | .setVariable => runSetVariable notify id source a.target a.value
  | .showAlert => showAlert notify id (.text a.value)

/-- Runs what a value given as an action comes to. -/
def runCoerced (notify : Notify σ) (id : Nat) (source : Value) : Coerced → Act σ Unit
  | .unknown tag =>
    skip notify id (unknownAction source tag.message [("action_type", tag)])
  | .malformed tag issues => skip notify id (malformedAction source tag issues)
  | .kindless target value => do
    let _ ← evaluatedParts id target value
    skip notify id (unknownAction source Shape.action.name [])
  | .action a => do
    let (target, value) ← evaluatedParts id a.target a.value
    runAction notify id source ⟨a.kind, target, value⟩

/-- The skip of an action that failed. -/
def failedAction (source : Value) (f : Fault) : Skip :=
  ⟨.callbackError, "Error executing action on node " ++ source.message ++ ": " ++ f.text, source,
    []⟩

/-- A record of the engine's own log. -/
def logLine (level : Level) (message : String) : LogRecord := ⟨level, "engine", message, false⟩

/-- Runs one action.  It never fails. -/
def executeAction (notify : Notify σ) (id : Nat) (action source : Value) : Act σ Unit := do
  let e ← Act.engine id
  if e.isActive then
    guarded notify id (runCoerced notify id source (Action.coerce action)) (failedAction source)
  else Act.log (logLine .warning ("Ignoring action on disposed engine " ++ e.name))

/-! ## Events -/

/-- Whether event data carry a value.  There may be no event data. -/
def carriesValue : Value → Except Fault Bool
  | .null => .ok false
  | v => v.contains? (.text "value")

/-- The value that event data carry. -/
def carriedValue : Value → Except Fault Value
  | .object fs => .ok ((Entries.lookup "value" fs).getD .null)
  | .text _ => .error (.badIndex .text)
  | .tuple _ => .error (.badIndex .tuple)
  | _ => .error (.badIndex .list)

/-- The skip of an input value that could not be copied to its node. -/
def failedCopy (source : Value) (f : Fault) : Skip :=
  ⟨.callbackError, "Error mirroring input value of node " ++ source.message ++ ": " ++ f.text,
    source, []⟩

/-- Copies the value that event data carry to the node they come from. -/
def copyValue (notify : Notify σ) (id : Nat) (source data : Value) : Act σ Unit :=
  guarded notify id
    (do setNodeValue notify id source (← Act.ofExcept (carriedValue data))) (failedCopy source)

/-- Copies an input's value if the event is a change that carries one. -/
def copyInput (notify : Notify σ) (id : Nat) (g : Gesture) (source data : Value) :
    Act σ Unit := do
  if g = .change then
    if ← Act.ofExcept (carriesValue data) then copyValue notify id source data

/-- The skip of an event of an unknown kind. -/
def unknownEvent (source kind : Value) : Skip :=
  ⟨.invalidEvent, "Unknown event type " ++ kind.message ++ " on node " ++ source.message, source,
    [("event_type", kind)]⟩

/-- The skip of an event without an action. -/
def noAction (g : Gesture) (source : Value) : Skip :=
  ⟨.invalidEvent, g.name ++ " event on node " ++ source.message ++ " has no action", source, []⟩

/-- Runs the action of an event. -/
def runEventAction (notify : Notify σ) (id : Nat) (g : Gesture) (event source : Value) :
    Act σ Unit :=
  let action := event.fieldOf "action"
  if action.isNull then skip notify id (noAction g source)
  else executeAction notify id action source

/-- Runs one event of a known kind. -/
def runEvent (notify : Notify σ) (id : Nat) (g : Gesture) (event source data : Value) :
    Act σ Unit := do
  Act.log (logLine .debug ("Executing " ++ g.name ++ " event on node " ++ source.message))
  copyInput notify id g source data
  runEventAction notify id g event source

/-- Runs one event.  It fails only if no value can be looked for in the event data. -/
def executeEvent (notify : Notify σ) (id : Nat) (event source data : Value) : Act σ Unit := do
  let e ← Act.engine id
  if e.isActive then
    match Gesture.ofValue? (event.fieldOf "type") with
    | none => skip notify id (unknownEvent source (event.fieldOf "type"))
    | some g => runEvent notify id g event source data
  else Act.log (logLine .warning ("Ignoring event on disposed engine " ++ e.name))

/-! ## Dispatch -/

/-- The skip of an event that failed. -/
def failedEvent (g : Gesture) (node : Value) (f : Fault) : Skip :=
  ⟨.callbackError, "Error executing " ++ g.name ++ " event on node " ++ node.message ++ ": " ++
    f.text, node, []⟩

/-- Runs one of the matching events of a node.  It never fails. -/
def attemptEvent (notify : Notify σ) (id : Nat) (g : Gesture) (node data event : Value) :
    Act σ Unit :=
  guarded notify id (executeEvent notify id event node data) (failedEvent g node)

/-- Runs events one after the other. -/
def attemptEvents (notify : Notify σ) (id : Nat) (g : Gesture) (node data : Value) :
    List Value → Act σ Unit
  | [] => pure ()
  | event :: events => do
    attemptEvent notify id g node data event
    attemptEvents notify id g node data events

/-- The events of a record, if they are a row; none where there are none. -/
def eventsOf? (record : Value) : Option (List Value) :=
  let events := record.fieldOf "events"
  match events with
  | .list xs => some xs
  | .tuple xs => some xs
  | _ => if events.truthy then none else some []

/-- The events of one kind. -/
def matching (g : Gesture) (events : List Value) : List Value :=
  events.filter fun e => (e.fieldOf "type").equal (.text g.name)

/-- The skip of a trigger on an unknown node. -/
def unknownNode (g : Gesture) (node : Value) : Skip :=
  ⟨.unknownNode, g.name ++ " triggered on unknown node " ++ node.message, node, []⟩

/-- The skip of a node whose events are no row. -/
def eventsNoList (node : Value) : Skip :=
  ⟨.invalidEvent, "Events of node " ++ node.message ++ " are not a list", node, []⟩

/-- Runs the events of one kind out of a row, and says how many there were. -/
def runMatching (notify : Notify σ) (id : Nat) (g : Gesture) (node data : Value)
    (events : List Value) : Act σ Nat := do
  attemptEvents notify id g node data (matching g events)
  traceOpen id (Tracer.matched (.int (matching g events).length))
  return (matching g events).length

/-- Runs the events of one kind of a node. -/
def dispatch (notify : Notify σ) (id : Nat) (g : Gesture) (node data : Value) : Act σ Nat := do
  let record ← recordOf id node
  if record.isNull then
    skip notify id (unknownNode g node)
    return 0
  else
    match eventsOf? record with
    | none =>
      skip notify id (eventsNoList node)
      return 0
    | some events => runMatching notify id g node data events

/-- Sets the span in progress. -/
def setSpan (id : Nat) (span : Option Span) : Act σ Unit :=
  Act.modifyEngine id fun e => { e with span }

/-- Runs a step inside the span of a dispatch.  The span in progress before is so again after. -/
def inSpan {α : Type} (id : Nat) (g : Gesture) (node : Value) (x : Act σ α) : Act σ α := do
  let e ← Act.engine id
  let span ← e.tracer.start id node (.text g.name)
  setSpan id span
  let result ← Act.attempt x
  setSpan id e.span
  match result with
  | .ok a =>
    Tracer.finish id none span
    return a
  | .error f =>
    Tracer.finish id (some f) span
    throw f

/-- The skip of a trigger with an unknown event. -/
def unknownTrigger (node kind : Value) : Skip :=
  ⟨.unknownEventType, "Unknown event type " ++ kind.message ++ " triggered on node " ++
    node.message, node, []⟩

/-- What is logged when a disposed engine is triggered. -/
def ignoredTrigger (e : Engine) (node kind : Value) : LogRecord :=
  logLine .warning ("Ignoring " ++ kind.message ++ " on node " ++ node.message ++ ": engine " ++
    e.name ++ " is disposed")

/-- Runs every event of a node of the given kind, in order, and says how many there were.  It
fails only if the node cannot be the key of a table. -/
def executeNodeEvents (notify : Notify σ) (id : Nat) (node kind data : Value) : Act σ Nat := do
  let e ← Act.engine id
  if e.isActive then
    match Gesture.ofValue? kind with
    | none =>
      skip notify id (unknownTrigger node kind)
      return 0
    | some g => inSpan id g node (dispatch notify id g node data)
  else
    Act.log (ignoredTrigger e node kind)
    return 0

end EventCanvas.Engine
