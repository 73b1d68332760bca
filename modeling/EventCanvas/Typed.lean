import EventCanvas.Engine.Diagnostic
import EventCanvas.Preview.Entry
import EventCanvas.Project
import EventCanvas.Widget

/-!
# Typed values by the name of their shape

`Typed.read?` reads a value as one of the declared shapes, chosen by name.
-/

namespace EventCanvas.Typed

/-- Reads an action of no particular kind.  One of a particular kind is taken as it is. -/
def plainAction (v : Value) : Reading Value :=
  match v with
  | .typed s fs =>
    if s.isFrozen then .ok (.typed s fs) else .issue (.notShape .action) v
  | _ =>
    Reading.shaped .action v fun v =>
      (fun target value => .typed .action [("target", .ofText? target), ("value", .text value)]) <$>
        Reading.fieldD v ["target"] none (Reading.optional Reading.text) <*>
        Reading.field v "value" Reading.text

/-- The readers of the shapes, by name.  An entry without a time gets the one given. -/
def readers (now : Instant) : List (String × (Value → Reading Value)) :=
  [("EventAction", fun v => Action.toValue <$> Action.read v),
    (Shape.action.name, plainAction),
    (Shape.setText.name, fun v => Action.toValue <$> Action.readKind .setText v),
    (Shape.setVariable.name, fun v => Action.toValue <$> Action.readKind .setVariable v),
    (Shape.showAlert.name, fun v => Action.toValue <$> Action.readKind .showAlert v),
    (Shape.handler.name, fun v => Handler.toValue <$> Handler.read v),
    (Shape.position.name, fun v => Position.toValue <$> Position.read v),
    (Shape.nodeData.name, fun v => NodeData.toValue <$> NodeData.read v),
    (Shape.node.name, fun v => Node.toValue <$> Node.read v),
    (Shape.edge.name, fun v => Edge.toValue <$> Edge.read v),
    (Shape.settings.name, fun v => Settings.toValue <$> Settings.read v),
    (Shape.graph.name, fun v => Graph.toValue <$> Graph.read v),
    (Shape.project.name, fun v => Project.toValue <$> Project.read v),
    (Shape.projectDraft.name, fun v => ProjectDraft.toValue <$> ProjectDraft.read v),
    (Shape.projectPatch.name, fun v => ProjectPatch.toValue <$> ProjectPatch.read v),
    (Shape.widgetNode.name, fun v => WidgetNode.toValue <$> WidgetNode.read v),
    (Shape.widgetEdge.name, fun v => WidgetEdge.toValue <$> WidgetEdge.read v),
    (Shape.historyEntry.name, fun v => HistoryEntry.toValue <$> HistoryEntry.read now v),
    (Shape.snapshot.name, fun v => Snapshot.toValue <$> Snapshot.read v),
    (Shape.diagnostic.name, fun v => Diagnostic.toValue <$> Diagnostic.read v)]

/-- Reads a value as the shape with a name, if there is one. -/
def read? (now : Instant) (name : String) : Option (Value → Reading Value) :=
  Entries.lookup name (readers now)

end EventCanvas.Typed
