import EventCanvas.Clock
import EventCanvas.Graph

/-!
# Preview history entries and snapshots
-/

namespace EventCanvas

/-- One line of a preview's history. -/
structure HistoryEntry where
  action : String
  timestamp : Instant
  data : Value

namespace HistoryEntry

/-- The entry as a typed value. -/
def toValue (e : HistoryEntry) : Value :=
  .typed .historyEntry
    [("action", .text e.action), ("timestamp", .instant e.timestamp), ("data", e.data)]

/-- Reads an entry; one without a time gets the present one. -/
def read (now : Instant) (v : Value) : Reading HistoryEntry :=
  Reading.shaped .historyEntry v fun v =>
    HistoryEntry.mk <$> Reading.field v "action" Reading.text <*>
      Reading.fieldD v ["timestamp"] now Reading.instant <*>
      Reading.fieldD v ["data"] .null Reading.any

end HistoryEntry

/-- The node values and variables of a preview at some time. -/
structure Snapshot where
  nodeValues : Fields
  vars : Fields
  exportedAt : Option Instant

namespace Snapshot

/-- The snapshot as a typed value. -/
def toValue (s : Snapshot) : Value :=
  .typed .snapshot
    [("node_values", .object s.nodeValues), ("variables", .object s.vars),
      ("exported_at", (s.exportedAt.map .instant).getD .null)]

/-- The names under which the node values may be given. -/
def nodeValuesNames : List String := ["nodeValues", "node_values"]

/-- Reads a snapshot; what is missing is empty. -/
def read (v : Value) : Reading Snapshot :=
  Reading.shaped .snapshot v fun v =>
    Snapshot.mk <$> Reading.fieldD v nodeValuesNames [] Reading.table <*>
      Reading.fieldD v ["variables"] [] Reading.table <*>
      Reading.fieldD v ["exportedAt", "exported_at"] none (Reading.optional Reading.instant)

end Snapshot

end EventCanvas
