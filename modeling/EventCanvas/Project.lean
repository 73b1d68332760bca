import EventCanvas.Graph

/-!
# Project rows

The envelope in which a project graph is stored, and the two payloads that
create and change one.
-/

namespace EventCanvas

/-- A stored project. -/
structure Project where
  id : Identifier
  userId : Identifier
  name : String
  data : Graph
  createdAt : Instant
  updatedAt : Instant
  isDeleted : Bool
deriving Inhabited

namespace Project

/-- The project as a typed value. -/
def toValue (p : Project) : Value :=
  .typed .project
    [("id", .identifier p.id), ("user_id", .identifier p.userId), ("name", .text p.name),
      ("data", p.data.toValue), ("created_at", .instant p.createdAt),
      ("updated_at", .instant p.updatedAt), ("is_deleted", .bool p.isDeleted)]

/-- Reads a project. -/
def read (v : Value) : Reading Project :=
  Reading.shaped .project v fun v =>
    Project.mk <$> Reading.field v "id" Reading.identifier <*>
      Reading.field v "user_id" Reading.identifier <*>
      Reading.field v "name" Reading.nonEmptyText <*> Reading.field v "data" Graph.read <*>
      Reading.field v "created_at" Reading.instant <*>
      Reading.field v "updated_at" Reading.instant <*>
      Reading.fieldD v ["is_deleted"] false Reading.truth

/-- Reads a project and says why it is rejected. -/
def validate (v : Value) : Except Fault Project :=
  match read v with
  | .ok p => .ok p
  | .bad issues => .error (.ofIssues issues)

end Project

/-- The payload that creates a project. -/
structure ProjectDraft where
  name : String
  data : Option Graph

namespace ProjectDraft

/-- The draft as a typed value. -/
def toValue (d : ProjectDraft) : Value :=
  .typed .projectDraft
    [("name", .text d.name), ("data", (d.data.map Graph.toValue).getD .null)]

/-- Reads a draft. -/
def read (v : Value) : Reading ProjectDraft :=
  Reading.shaped .projectDraft v fun v =>
    ProjectDraft.mk <$> Reading.field v "name" Reading.nonEmptyText <*>
      Reading.fieldD v ["data"] none (Reading.optional Graph.read)

end ProjectDraft

/-- The payload that changes a project. -/
structure ProjectPatch where
  name : Option String
  data : Option Graph

namespace ProjectPatch

/-- The patch as a typed value. -/
def toValue (p : ProjectPatch) : Value :=
  .typed .projectPatch
    [("name", .ofText? p.name), ("data", (p.data.map Graph.toValue).getD .null)]

/-- Reads a patch. -/
def read (v : Value) : Reading ProjectPatch :=
  Reading.shaped .projectPatch v fun v =>
    ProjectPatch.mk <$> Reading.fieldD v ["name"] none (Reading.optional Reading.nonEmptyText) <*>
      Reading.fieldD v ["data"] none (Reading.optional Graph.read)

end ProjectPatch

end EventCanvas
