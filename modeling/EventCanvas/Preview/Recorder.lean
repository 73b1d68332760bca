import EventCanvas.Host.Program
import EventCanvas.Preview.Entry

/-!
# The preview recorder

A recorder keeps a history of what happened during a preview, with a copy of the
node values and variables of its own.  It stands between an engine and a host:
`Recorder.host` is the host that records each notice and passes it on.

An operation that fails may have read the clock; else it leaves the recorder as
it was.
-/

namespace EventCanvas

/-- A recorder: its clock, its copies of node values and variables, the history, and the log
records that it has not handed on yet. -/
structure Recorder where
  clock : Clock
  nodeValues : Table
  vars : Table
  history : List HistoryEntry
  unlogged : List LogRecord

namespace Recorder

variable {σ α : Type}

/-- An operation on a recorder. -/
abbrev Step (α : Type) : Type := ExceptT Fault (StateM Recorder) α

/-- What there is, or a fault. -/
def ofExcept : Except Fault α → Step α
  | .ok a => pure a
  | .error f => throw f

/-- Reads the clock. -/
def now : Step Instant := modifyGet fun r => (r.clock.now, { r with clock := r.clock.next })

/-- The empty node values of some ids: each id once, in order. -/
def blankValues : List Value → Except Fault Table
  | ids => ids.foldlM (fun t id => do return Entries.put (← id.asKey) (.text "") t) []

/-- A recorder for some nodes. -/
def new (clock : Clock) (ids : List Value) : Except Fault Recorder := do
  return ⟨clock, ← blankValues ids, [], [], []⟩

/-- The log record of an entry. -/
def logLine (e : HistoryEntry) : LogRecord :=
  ⟨.debug, "history", "Preview history: " ++ e.action, false⟩

/-- The entry for an action, which must be a text. -/
def entryOf (action data : Value) (time : Instant) : Reading HistoryEntry :=
  (fun a => ⟨a, time, data⟩) <$> Reading.under (.name "action") (Reading.text action)

/-- Adds an entry to the history. -/
def record (action data : Value) : Step HistoryEntry := do
  let time ← now
  match entryOf action data time with
  | .bad issues => throw (.invalid issues)
  | .ok e =>
    modify fun r =>
      { r with history := r.history ++ [e], unlogged := r.unlogged ++ [logLine e] }
    return e

/-- Adds an entry with a given text to the history. -/
def recordText (action : String) (data : Fields) : Step HistoryEntry :=
  record (.text action) (.object data)

/-- Writes a node value. -/
def updateNodeValue (id value : Value) : Step HistoryEntry := do
  let key ← ofExcept id.asKey
  modify fun r => { r with nodeValues := Entries.put key value r.nodeValues }
  recordText ("Node " ++ id.message ++ " value updated") [("nodeId", id), ("value", value)]

/-- Writes a variable. -/
def updateVariable (name value : Value) : Step HistoryEntry := do
  let key ← ofExcept name.asKey
  modify fun r => { r with vars := Entries.put key value r.vars }
  recordText ("Variable " ++ name.message ++ " updated") [("name", name), ("value", value)]

/-! ## Following the canvas -/

/-- The distinct values of a row. -/
def distinct : List Value → List Value
  | [] => []
  | v :: vs => v :: (distinct vs).filter fun w => !(w == v)

/-- Whether two rows have the same values, however often. -/
def sameSet (vs ws : List Value) : Bool :=
  vs.all (fun v => ws.contains v) && ws.all (fun w => vs.contains w)

/-- Whether some ids are those of the node values, each as often. -/
def isUpToDate (t : Table) (ids : List Value) : Bool :=
  sameSet ids (Entries.keys t) && ids.length == t.length

/-- The node values of some ids: values that there are stay, new ids start empty. -/
def keptValues (t : Table) (ids : List Value) : Table :=
  Entries.ofPairs (ids.map fun id => (id, (Entries.lookup id t).getD (.text "")))

/-- Follows the canvas to its present node ids.  Says whether anything changed. -/
def reconcile (given : Value) : Step Bool := do
  let ids ← ofExcept given.items?
  let _ ← ofExcept (ids.mapM Value.asKey)
  if isUpToDate (← get).nodeValues ids then return false
  else
    modify fun r => { r with nodeValues := keptValues r.nodeValues ids }
    let _ ← recordText "Node configuration changed" [("nodeCount", .int ids.length)]
    return true

/-- The ids that a reset is given; null stands for the present ones. -/
def resetIds (given : Value) : Step (List Value) := do
  if given.isNull then return Entries.keys (← get).nodeValues else ofExcept given.items?

/-- Empties everything and begins a new history. -/
def reset (given : Value) : Step Unit := do
  let ids ← resetIds given
  let blank ← ofExcept (blankValues ids)
  modify fun r => { r with nodeValues := blank, vars := [], history := [] }
  let _ ← recordText "Preview data reset" [("nodeCount", .int ids.length)]

/-! ## Snapshots -/

/-- The snapshot of a recorder at some time.  Its keys must be texts. -/
def snapshot (r : Recorder) (time : Instant) : Reading Snapshot :=
  (fun nodeValues vars => ⟨nodeValues, vars, some time⟩) <$>
    Reading.under (.name "node_values") (Reading.namedTable r.nodeValues) <*>
    Reading.under (.name "variables") (Reading.namedTable r.vars)

/-- The stored form of the present snapshot. -/
def exportData : Step Value := do
  let time ← now
  match (← get).snapshot time with
  | .bad issues => throw (.invalid issues)
  | .ok s => ofExcept (s.toValue.flatten? .full)

/-- Whether a payload names a part of a snapshot. -/
def names (payload : Value) (name : String) : Bool :=
  match payload with
  | .object fs => Entries.has name fs
  | _ => false

/-- Takes over what a payload names out of the snapshot in it. -/
def adopt (payload : Value) (s : Snapshot) (r : Recorder) : Recorder :=
  { r with
    nodeValues :=
      if Snapshot.nodeValuesNames.any (names payload) then Table.ofFields s.nodeValues
      else r.nodeValues
    vars :=
      if names payload "variables" then Table.ofFields s.vars else r.vars }

/-- Takes over the parts of a snapshot that a payload names. -/
def importData (payload : Value) : Step Unit := do
  match Snapshot.read payload with
  | .bad issues => throw (.invalid issues)
  | .ok s =>
    modify (adopt payload s)
    let _ ← recordText "Data imported" payload.fields

/-! ## Standing between an engine and a host -/

/-- The fields of updates, which must be a table. -/
def updateFields : Value → Except Fault Fields
  | .object fs => .ok fs
  | _ => .error (.wrongKind "argument after ** must be a mapping")

/-- Records an update of a node. -/
def recordUpdate (id updates : Value) : Step HistoryEntry := do
  if ← ofExcept (Engine.carriesValue updates) then
    updateNodeValue id (← ofExcept (Engine.carriedValue updates))
  else
    let fs ← ofExcept (updateFields updates)
    recordText ("Node " ++ id.message ++ " updated") (Entries.merge [("nodeId", id)] fs)

/-- Records a notice.  Diagnostics are not recorded. -/
def recordNotice : Notice → Step Unit
  | .variableChanged name value => do
    let _ ← updateVariable name value
  | .nodeUpdated id updates => do
    let _ ← recordUpdate id updates
  | .alertShown message => do
    let _ ← recordText "Alert shown" [("message", message)]
  | .diagnosed _ => pure ()

/-- Runs an operation on the recorder of a host and hands on what it logs. -/
def lift (x : Step α) : Program Recorder α := do
  let (result, after) := x.run (← Program.state)
  Program.update fun _ => { after with unlogged := [] }
  after.unlogged.forM Program.logs
  Program.ofExcept result

/-- Records a notice and passes it on to the callback bound for it, if there is one. -/
def relay (forward : Hooks (Option Callback)) (inner : Host σ) (notice : Notice) :
    Program (Recorder × σ) Unit := do
  (lift (recordNotice notice)).within Prod.fst (fun r s => (r, s.2))
  match forward.get notice.hook with
  | none => return ()
  | some callback =>
    Program.tell (.forwarded callback notice)
    (inner.react callback notice).within Prod.snd fun t s => (s.1, t)

/-- The host that records what an engine tells it and passes it on to another host.  Diagnostics go
to the other host directly. -/
def host (forward : Hooks (Option Callback)) (inner : Host σ) : Host (Recorder × σ) where
  react callback notice :=
    match notice with
    | .diagnosed d => (inner.react callback (.diagnosed d)).within Prod.snd fun t s => (s.1, t)
    | notice => relay forward inner notice

end Recorder

end EventCanvas
