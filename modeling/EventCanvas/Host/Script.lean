import EventCanvas.Host.Program

/-!
# Scripted hosts

A `Script` describes a callback: the steps it takes on its first few calls, and
the fault it ends in, if any.  `Scripted.host` is the host that follows scripts.
It knows engines by the names under which it remembers them, and counts for each
callback how often it was called.
-/

namespace EventCanvas

mutual
/-- What a callback does. -/
inductive Script where
  | mk (label : String) (limit : Int) (steps : List ScriptStep) (fault : Option Fault)

/-- One step of a host. -/
inductive ScriptStep where
  /-- An operation on the engine of a name. -/
  | engine (call target : String) (op : EngineOp Script)
  /-- A call of the engine of a name that cannot be made. -/
  | refused (call target : String) (fault : Fault)
  /-- Installs an engine, or fails because there is no context. -/
  | install (context : Except Fault (Context Script)) (name : String)
  /-- Mounts a canvas, or fails because there is no context. -/
  | mount (context : Except Fault (Context Script)) (name : String)
  | get
  | reset
  /-- Takes steps inside a session block, which may end in a fault. -/
  | session (context : Except Fault (Context Script)) (name : String) (steps : List ScriptStep)
    (fault : Option Fault)
end

namespace Script

/-- Whose callback it is. -/
def label : Script → String
  | mk label _ _ _ => label

/-- On how many calls the steps are taken. -/
def limit : Script → Int
  | mk _ limit _ _ => limit

/-- The steps. -/
def steps : Script → List ScriptStep
  | mk _ _ steps _ => steps

/-- The fault at the end. -/
def fault : Script → Option Fault
  | mk _ _ _ fault => fault

/-- A callback that does nothing. -/
def silent (label : String) : Script := mk label 1 [] none

end Script

/-- The name of a step. -/
def ScriptStep.call : ScriptStep → String
  | engine call _ _ | refused call _ _ => call
  | install .. => "initialize"
  | mount .. => "mount"
  | get => "get"
  | reset => "reset"
  | session .. => "session"

/-- A callback of a scripted host: its script and how often it was called. -/
structure ScriptedCallback where
  script : Script
  calls : Int

/-- The state of a scripted host: its callbacks by number, and the engines by the names under which
they are remembered. -/
structure Scripted where
  callbacks : List ScriptedCallback
  names : Entries String Nat

namespace Scripted

/-- The state before anything happened. -/
def initial : Scripted := ⟨[], []⟩

/-! ## Binding scripts to callbacks -/

/-- Adds a callback that follows a script. -/
def bind (s : Scripted) (script : Script) : Callback × Scripted :=
  (⟨script.label, s.callbacks.length⟩, { s with callbacks := s.callbacks ++ [⟨script, 0⟩] })

/-- Adds a callback if there is a script for it. -/
def bindOption (s : Scripted) : Option Script → Option Callback × Scripted
  | none => (none, s)
  | some script => (s.bind script).map some id

/-- Adds callbacks for the hooks of a context. -/
def bindHooks (s : Scripted) (hooks : Hooks (Option Script)) :
    Hooks (Option Callback) × Scripted :=
  let (a, s) := s.bindOption hooks.variableChange
  let (b, s) := s.bindOption hooks.nodeUpdate
  let (c, s) := s.bindOption hooks.alert
  let (d, s) := s.bindOption hooks.diagnostic
  (⟨a, b, c, d⟩, s)

/-- A context with its scripts bound. -/
def bindContext (s : Scripted) (c : Context Script) : Context Callback × Scripted :=
  let (hooks, s) := s.bindHooks c.hooks
  (⟨c.vars, c.nodes, hooks, c.misfits⟩, s)

/-- Changes of a context with their scripts bound. -/
def bindChanges (s : Scripted) :
    List (ContextChange Script) → List (ContextChange Callback) × Scripted
  | [] => ([], s)
  | .vars t :: rest => (s.bindChanges rest).map (.vars t :: ·) id
  | .nodes t :: rest => (s.bindChanges rest).map (.nodes t :: ·) id
  | .oddVars v :: rest => (s.bindChanges rest).map (.oddVars v :: ·) id
  | .oddNodes v :: rest => (s.bindChanges rest).map (.oddNodes v :: ·) id
  | .refused f :: rest => (s.bindChanges rest).map (.refused f :: ·) id
  | .hook h b :: rest =>
    let (b, s) := s.bindOption b
    (s.bindChanges rest).map (.hook h b :: ·) id

/-- An operation with its scripts bound. -/
def bindOp (s : Scripted) : EngineOp Script → EngineOp Callback × Scripted
  | .updateContext changes => (s.bindChanges changes).map .updateContext id
  | .getVariable name => (.getVariable name, s)
  | .setVariable name value => (.setVariable name value, s)
  | .getNodeValue node => (.getNodeValue node, s)
  | .setNodeValue node value => (.setNodeValue node value, s)
  | .setNodeText node text => (.setNodeText node text, s)
  | .showAlert message => (.showAlert message, s)
  | .nodeValues => (.nodeValues, s)
  | .evaluate expression => (.evaluate expression, s)
  | .executeAction action source => (.executeAction action source, s)
  | .executeEvent event source data => (.executeEvent event source data, s)
  | .executeNodeEvents node kind data => (.executeNodeEvents node kind data, s)
  | .dispose => (.dispose, s)
  | .debugInfo => (.debugInfo, s)
  | .lifecycle => (.lifecycle, s)
  | .isActive => (.isActive, s)
  | .name => (.name, s)
  | .literal => (.literal, s)

/-- Remembers an engine under a name. -/
def remember (name : String) (id : Nat) : Program Scripted Unit :=
  Program.update fun s => { s with names := Entries.put name id s.names }

/-- The name under which an engine is remembered. -/
def nameOf? (s : Scripted) (id : Nat) : Option String :=
  (s.names.find? fun e => e.2 == id).map (·.1)

/-! ## Taking steps -/

/-- Performs an operation on the engine of a name. -/
def operate (target : String) (op : EngineOp Script) : Program Scripted Reply := do
  let s ← Program.state
  match Entries.lookup target s.names with
  | none => return .failed (.missingKey target)
  | some id =>
    let (op, s) := s.bindOp op
    Program.write s (Program.ask (.engine id op))

/-- Fails to make a call of the engine of a name. -/
def refuse (target : String) (fault : Fault) : Program Scripted Reply := do
  match Entries.lookup target (← Program.state).names with
  | none => return .failed (.missingKey target)
  | some _ => return .failed fault

/-- Gives a context to the slot and remembers the engine that comes of it. -/
def place (context : Context Script) (name : String) (op : Context Callback → SlotOp Callback) :
    Program Scripted (Option Nat) := do
  let (context, s) := (← Program.state).bindContext context
  match ← Program.write s (Program.ask (.slot (op context))) with
  | .engine (some id) => do
    remember name id
    return some id
  | _ => return none

/-- The text of what a slot gave. -/
def describe : Option Nat → Program Scripted Reply
  | none => return .value (.text "None")
  | some id => Program.ask (.engine id .literal)

/-- The name of the engine in the slot. -/
def liveName : Program Scripted Reply := do
  match ← Program.ask (.slot .get) with
  | .engine (some id) => return .value (Value.ofText? ((← Program.state).nameOf? id))
  | _ => return .value .null

/-- How a session block ends. -/
def sessionAnswer (steps : List ScriptStep) : Option Fault → Reply
  | none => .value (.int steps.length)
  | some f => .failed f

mutual
/-- Takes a step and says what it answers. -/
def take : ScriptStep → Program Scripted Reply
  | .engine _ target op => operate target op
  | .refused _ target fault => refuse target fault
  | .install (.error f) _ => return .failed f
  | .install (.ok context) name => do describe (← place context name .install)
  | .mount (.error f) _ => return .failed f
  | .mount (.ok context) name => do describe (← place context name .mount)
  | .get => liveName
  | .reset => Program.ask (.slot .reset)
  | .session (.error f) _ _ _ => return .failed f
  | .session (.ok context) name steps fault => do
    let entered ← place context name .install
    takeAll "in_session" steps
    match entered with
    | none => return .nothing
    | some id => do
      let _ ← Program.ask (.slot (.leave id))
      return sessionAnswer steps fault

/-- Takes steps one after the other and notes what each answers. -/
def takeAll (scope : String) : List ScriptStep → Program Scripted Unit
  | [] => return ()
  | step :: steps => do
    let answer ← take step
    Program.tell (.reported scope step.call answer)
    takeAll scope steps
end

/-! ## The host -/

/-- Counts a call of a callback. -/
def count (s : Scripted) (key : Nat) : Scripted :=
  { s with callbacks := s.callbacks.modify key fun c => { c with calls := c.calls + 1 } }

/-- What a callback does when it was called so many times before. -/
def follow (c : ScriptedCallback) : Program Scripted Unit := do
  if c.calls < c.script.limit then takeAll "nested" c.script.steps
  match c.script.fault with
  | none => return ()
  | some f => Program.fail f

/-- The host whose callbacks follow their scripts. -/
def host : Host Scripted where
  react callback _ := do
    let s ← Program.state
    Program.write (s.count callback.key) <|
      match s.callbacks[callback.key]? with
      | none => pure ()
      | some c => follow c

end Scripted

end EventCanvas
