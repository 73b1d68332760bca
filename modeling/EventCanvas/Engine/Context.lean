import EventCanvas.Graph

/-!
# Engine contexts

What an engine works on: a table of variables, a table of runtime records of the
nodes, and the callbacks of the host.  How a callback is given is a parameter:
an engine holds handles, a description of a host holds what the handles stand
for.

A host may put something that is no table in the place of either table.  Such a
misfit is kept, and every use of the table fails until a table takes its place.
-/

namespace EventCanvas

/-- The occasions on which an engine calls its host. -/
inductive Hook where
  | variableChange
  | nodeUpdate
  | alert
  | diagnostic
deriving DecidableEq, Inhabited

namespace Hook

/-- The name of a hook. -/
def name : Hook → String
  | variableChange => "on_variable_change"
  | nodeUpdate => "on_node_update"
  | alert => "on_show_alert"
  | diagnostic => "on_diagnostic"

/-- The hooks in order. -/
def all : List Hook := [variableChange, nodeUpdate, alert, diagnostic]

/-- The hook with a name. -/
def ofName? (s : String) : Option Hook := all.find? fun h => h.name == s

end Hook

/-- Something for each hook. -/
structure Hooks (β : Type) where
  variableChange : β
  nodeUpdate : β
  alert : β
  diagnostic : β

namespace Hooks

variable {β γ : Type}

/-- The same for every hook. -/
def all (b : β) : Hooks β := ⟨b, b, b, b⟩

/-- What there is for a hook. -/
def get (hs : Hooks β) : Hook → β
  | .variableChange => hs.variableChange
  | .nodeUpdate => hs.nodeUpdate
  | .alert => hs.alert
  | .diagnostic => hs.diagnostic

/-- Replaces what there is for a hook. -/
def set (hs : Hooks β) (b : β) : Hook → Hooks β
  | .variableChange => { hs with variableChange := b }
  | .nodeUpdate => { hs with nodeUpdate := b }
  | .alert => { hs with alert := b }
  | .diagnostic => { hs with diagnostic := b }

/-- Applies a function at every hook. -/
def map (f : β → γ) (hs : Hooks β) : Hooks γ :=
  ⟨f hs.variableChange, f hs.nodeUpdate, f hs.alert, f hs.diagnostic⟩

@[simp] theorem get_all (b : β) (h : Hook) : (all b).get h = b := by cases h <;> rfl

@[simp] theorem get_map (f : β → γ) (hs : Hooks β) (h : Hook) :
    (hs.map f).get h = f (hs.get h) := by cases h <;> rfl

end Hooks

/-- What stands in the places of the tables of a context without being a table. -/
structure Misfits where
  vars : Option Value
  nodes : Option Value
deriving Inhabited

/-- No misfits: both tables are tables. -/
def Misfits.empty : Misfits := ⟨none, none⟩

/-- What an engine works on.  A table that a misfit has taken the place of is empty. -/
structure Context (β : Type) where
  vars : Table
  nodes : Table
  hooks : Hooks (Option β)
  misfits : Misfits

namespace Context

variable {β : Type}

/-- A context of two tables and callbacks. -/
def ofTables (vars nodes : Table) (hooks : Hooks (Option β)) : Context β :=
  ⟨vars, nodes, hooks, .empty⟩

/-- The context of an engine that has none any more. -/
def empty : Context β := ofTables [] [] (Hooks.all none)

/-- Whether a context has no data and no callbacks. -/
def IsEmpty (c : Context β) : Prop :=
  c.vars = [] ∧ c.nodes = [] ∧ c.misfits = .empty ∧ ∀ h, c.hooks.get h = none

theorem isEmpty_empty : (empty : Context β).IsEmpty :=
  ⟨rfl, rfl, rfl, fun h => by simp [empty, ofTables]⟩

/-- The table that a misfit comes to when it is shown. -/
def shownTable (table : Table) : Option Value → Except Fault Table
  | none => .ok table
  | some v => v.toTable?

/-- The context as it is shown: with tables made of its misfits. -/
def shown (c : Context β) : Except Fault (Context β) := do
  let vars ← shownTable c.vars c.misfits.vars
  let nodes ← shownTable c.nodes c.misfits.nodes
  return ofTables vars nodes c.hooks

end Context

/-! ## Changes -/

/-- A change to one part of a context. -/
inductive ContextChange (β : Type) where
  | vars (table : Table)
  | nodes (table : Table)
  /-- Something that is no table, in the place of the variables. -/
  | oddVars (v : Value)
  /-- Something that is no table, in the place of the records of the nodes. -/
  | oddNodes (v : Value)
  | hook (hook : Hook) (binding : Option β)
  /-- A change that cannot be made. -/
  | refused (fault : Fault)

namespace ContextChange

variable {β : Type}

/-- Makes a change. -/
def apply (c : Context β) : ContextChange β → Context β
  | vars t => { c with vars := t, misfits := { c.misfits with vars := none } }
  | nodes t => { c with nodes := t, misfits := { c.misfits with nodes := none } }
  | oddVars v => { c with vars := [], misfits := { c.misfits with vars := some v } }
  | oddNodes v => { c with nodes := [], misfits := { c.misfits with nodes := some v } }
  | hook h b => { c with hooks := c.hooks.set b h }
  | refused _ => c

/-- The change to the variables that a value makes. -/
def ofVars : Value → ContextChange β
  | .object fs => vars (Table.ofFields fs)
  | v => oddVars v

/-- The change to the records of the nodes that a value makes. -/
def ofNodes : Value → ContextChange β
  | .object fs => nodes (Table.ofFields fs)
  | v => oddNodes v

/-- The change to a part that contexts do not have. -/
def ofUnknown (name : String) : ContextChange β :=
  refused (.wrongKind ("unexpected keyword argument " ++ Text.quoted name))

/-- The fault of the first change that cannot be made. -/
def fault? : List (ContextChange β) → Option Fault
  | [] => none
  | refused f :: _ => some f
  | _ :: rest => fault? rest

end ContextChange

/-! ## Sessions on a graph -/

namespace Graph

/-- The runtime record of a node: its label, properties and handlers. -/
def runtimeRecord (d : NodeData) : Value :=
  .object
    [("label", .text d.label), ("props", .object (d.props.getD [])),
      ("events", .list (d.handlers.map Handler.toValue))]

/-- The runtime records of the nodes by id. -/
def runtimeNodes (g : Graph) : Table :=
  Entries.ofPairs (g.nodes.map fun n => (Value.text n.id, runtimeRecord n.data))

/-- The variables at the start of a session. -/
def seedVariables (g : Graph) : Table := Table.ofFields g.settings.vars

/-- The context at the start of a session on a graph. -/
def context {β : Type} (g : Graph) (hooks : Hooks (Option β)) : Context β :=
  .ofTables g.seedVariables g.runtimeNodes hooks

end Graph

end EventCanvas
