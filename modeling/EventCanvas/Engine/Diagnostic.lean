import EventCanvas.Reading

/-!
# Diagnostics

Why an action or an event did nothing.
-/

namespace EventCanvas

/-- The kinds of reason. -/
inductive DiagnosticKind where
  | missingTarget
  | unknownNode
  | unknownAction
  | invalidAction
  | invalidEvent
  | unknownEventType
  | callbackError
  | disposed
deriving DecidableEq, Inhabited

namespace DiagnosticKind

/-- The name of a kind. -/
def name : DiagnosticKind → String
  | missingTarget => "missing_target"
  | unknownNode => "unknown_node"
  | unknownAction => "unknown_action"
  | invalidAction => "invalid_action"
  | invalidEvent => "invalid_event"
  | unknownEventType => "unknown_event_type"
  | callbackError => "callback_error"
  | disposed => "disposed"

/-- The kinds by name. -/
def byName : List (String × DiagnosticKind) :=
  [missingTarget, unknownNode, unknownAction, invalidAction, invalidEvent, unknownEventType,
    callbackError, disposed].map fun k => (k.name, k)

/-- The kind with a name. -/
def ofName? (s : String) : Option DiagnosticKind := Entries.lookup s byName

end DiagnosticKind

/-- A report that an action or event was skipped. -/
structure Diagnostic where
  kind : DiagnosticKind
  message : String
  nodeId : Option String
  detail : Fields

namespace Diagnostic

/-- The diagnostic as a typed value. -/
def toValue (d : Diagnostic) : Value :=
  .typed .diagnostic
    [("kind", .text d.kind.name), ("message", .text d.message), ("node_id", .ofText? d.nodeId),
      ("detail", .object d.detail)]

/-- Reads a diagnostic. -/
def read (v : Value) : Reading Diagnostic :=
  Reading.shaped .diagnostic v fun v =>
    Diagnostic.mk <$> Reading.field v "kind" (Reading.oneOf DiagnosticKind.byName) <*>
      Reading.field v "message" Reading.text <*>
      Reading.fieldD v ["node_id"] none (Reading.optional Reading.text) <*>
      Reading.fieldD v ["detail"] [] Reading.table

/-- The diagnostic about a node.  Only a text or null can name the node of a diagnostic. -/
def about? (kind : DiagnosticKind) (message : String) (nodeId : Value) (detail : Fields) :
    Reading Diagnostic :=
  (fun id => ⟨kind, message, id, detail⟩) <$>
    Reading.under (.name "node_id") (Reading.optional Reading.text nodeId)

end Diagnostic

end EventCanvas
