import EventCanvas.Document
import EventCanvas.Log

/-!
# Editing sessions

An `Editor` is a document in an editing session.  An `Editing` is something done in
one: it writes to the document, reads the clock and adds to the log, one after the
other, and it may fail in between.  Nothing undoes what was written before a fault.

Whatever replaces the graph of a document builds the whole graph that is to be and
hands it to `commit`.  `markSaved` takes the mark off before it copies the graph into
the row of the project, so that a graph that cannot be copied costs the mark.
-/

namespace EventCanvas

/-- A document in an editing session, with the clock and the log of the session. -/
structure Editor where
  document : Document
  clock : Clock
  log : List LogRecord

/-- Something done in an editing session. -/
abbrev Editing (α : Type) : Type := ExceptT Fault (StateM Editor) α

namespace Editing

/-- The document as it is. -/
def document : Editing Document := do return (← get).document

/-- Changes the document. -/
def write (f : Document → Document) : Editing Unit :=
  modify fun s => { s with document := f s.document }

/-- Reads the clock. -/
def now : Editing Instant := modifyGet fun s => (s.clock.now, { s with clock := s.clock.next })

/-- Finds an id for a new component. -/
def newId (taken : List String) (c : Component) : Editing String :=
  modifyGet fun s =>
    let (id, clock) := Document.freshId taken c s.clock
    (id, { s with clock := clock })

/-- Adds a line to the log. -/
def note (message : String) : Editing Unit :=
  modify fun s => { s with log := s.log ++ [⟨.debug, "project", message, false⟩] }

end Editing

namespace Document

open Editing

/-- Takes over a graph that was built for it, and marks the document as changed. -/
def commit : Reading Graph → Editing Unit
  | .ok g => do
    write fun d => { d with data := g }
    write fun d => { d with hasUnsavedChanges := true }
  | .bad issues => throw (.ofIssues issues)

/-- Puts other nodes in the place of all nodes. -/
def replaceNodes (nodes : List Node) : Editing Unit := do
  let d ← document
  commit (Graph.ofParts nodes d.data.edges d.data.settings)

/-- Puts other edges in the place of all edges. -/
def replaceEdges (edges : List Edge) : Editing Unit := do
  let d ← document
  commit (Graph.ofParts d.data.nodes edges d.data.settings)

/-- Adds a node at the end. -/
def addNode (n : Node) : Editing Unit := do
  let d ← document
  replaceNodes (d.data.nodes ++ [n])
  note ("Added node " ++ n.id)

/-- Removes a node and the edges that touch it. -/
def removeNode (id : Value) : Editing Unit := do
  let d ← document
  let n ← ofExcept (d.find id)
  commit (without n.id d.data)
  note ("Removed node " ++ id.message)

/-- Changes some fields of a node, and gives that node. -/
def updateNode (id : Value) (changes : Fields) : Editing Node := do
  let d ← document
  let n ← ofExcept (d.find id)
  let m ← ofExcept (changedNode n changes)
  replaceNodes (putNode n.id m d.data.nodes)
  return m

/-- Changes some of the settings. -/
def updateSettings (changes : Fields) : Editing Unit := do
  let d ← document
  commit (withSettings changes d.data)

/-- Adds a new component of a kind, and gives it.  The clock is read if the kind is known. -/
def createNode (kind place : Value) : Editing Node := do
  match Component.ofValue? kind with
  | none => throw (unknownKind kind)
  | some c =>
    let d ← document
    let id ← newId d.data.nodeIds c
    let p ← ofExcept (placeOf place)
    addNode (newNode c id p)
    return newNode c id p

/-- Puts a copy of the graph into a row, which becomes the row of the document. -/
def storeIn (p : Project) : Editing Unit := do
  let d ← document
  let data ← ofExcept (copyOf d.data)
  let time ← now
  write fun d => { d with row := some { p with data := data, updatedAt := time } }

/-- Marks the document as saved, and stores it in its project row, if it has one. -/
def markSaved : Editing Unit := do
  write fun d => { d with hasUnsavedChanges := false }
  let d ← document
  match d.row with
  | some p => storeIn p
  | none => return ()

end Document

/-- One step on a document. -/
inductive Edit where
  | createNode (kind place : Value)
  | addNode (n : Node)
  | removeNode (id : Value)
  | updateNode (id : Value) (changes : Fields)
  | replaceNodes (nodes : List Node)
  | replaceEdges (edges : List Edge)
  | updateSettings (changes : Fields)
  | markSaved

/-- Does a step.  Gives the node that was made or changed, if there is one. -/
def Edit.perform : Edit → Editing (Option Node)
  | createNode kind place => do return some (← Document.createNode kind place)
  | addNode n => do
    Document.addNode n
    return none
  | removeNode id => do
    Document.removeNode id
    return none
  | updateNode id changes => do return some (← Document.updateNode id changes)
  | replaceNodes nodes => do
    Document.replaceNodes nodes
    return none
  | replaceEdges edges => do
    Document.replaceEdges edges
    return none
  | updateSettings changes => do
    Document.updateSettings changes
    return none
  | markSaved => do
    Document.markSaved
    return none

namespace Editor

/-- Does a step.  Answers with the node that it gives, if it gives one. -/
def step (s : Editor) (e : Edit) : Except Fault (Option Node) × Editor := e.perform.run s

/-- The session after a row of steps. -/
def run (s : Editor) (edits : List Edit) : Editor := edits.foldl (fun s e => (s.step e).2) s

end Editor

end EventCanvas
