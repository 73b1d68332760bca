import EventCanvas.Fault

/-!
# Flattening typed values

`Value.flatten` turns a value into its stored form.  That has only what JSON has:
tables for typed values, with the outer names of their fields, lists for tuples,
texts for instants and identifiers, and null for a number that JSON cannot
express.  Only the coordinates of a position are kept whatever they are.  Not
every value can be stored: `Value.obstacle?` finds what is in the way, and
`Value.flatten?` flattens what has no obstacle.  A record is in the way, unless it
declares itself an instance of a data class: then it is stored as a table of the
fields that are declared, and a declaration that is a value can declare none.

`Value.working` turns the typed values inside a value into tables, and such
instances too, and changes nothing else.  It never fails: what stands too deep
inside is kept as it is.
-/

namespace EventCanvas

/-- The outer name of a field, where it differs from the inner one. -/
def Shape.outerName : Shape → String → String
  | .settings, "preview_mode" => "previewMode"
  | .widgetEdge, "source_handle" => "sourceHandle"
  | .widgetEdge, "target_handle" => "targetHandle"
  | .snapshot, "node_values" => "nodeValues"
  | .snapshot, "exported_at" => "exportedAt"
  | _, name => name

/-- The declared fields of a shape whose values may carry further fields; none for other shapes. -/
def Shape.declaredNames? : Shape → Option (List String)
  | .widgetNode => some ["id", "type", "position", "data"]
  | .widgetEdge => some ["id", "source", "target", "type", "source_handle", "target_handle"]
  | _ => none

/-- Whether a field of a typed value is a further one, that is, not declared.  The declared fields
come first, so a name among the `past` ones belongs to a further field. -/
def Shape.isFurther (s : Shape) (past : List String) (name : String) : Bool :=
  match s.declaredNames? with
  | some names => past.contains name || !names.contains name
  | none => false

/-- Whether a field of a typed value may hold any value. -/
def Shape.isFree (s : Shape) (past : List String) (name : String) : Bool :=
  s.isFurther past name || (s = .historyEntry && name = "data")

/-- Whether the fields of a shape are declared as numbers, which are kept whatever they are. -/
def Shape.holdsNumbers : Shape → Bool
  | .position => true
  | _ => false

/-- How the fields of typed values are stored. -/
structure FlatForm where
  /-- Fields under their outer names. -/
  outerNames : Bool
  /-- Fields of typed values that are null are left out. -/
  omitNull : Bool

namespace FlatForm

/-- The stored form with all fields, under their outer names. -/
def full : FlatForm := ⟨true, false⟩

/-- The stored form with all fields, under their inner names. -/
def inner : FlatForm := ⟨false, false⟩

/-- The stored form without the fields that are null, under the inner names. -/
def innerCompact : FlatForm := ⟨false, true⟩

/-- The stored form without the fields that are null. -/
def compact : FlatForm := ⟨true, true⟩

end FlatForm

namespace Value

/-- A number as it is kept: the stored form has none that are not finite. -/
def flatNumber (d : Double) : Value := if d.isFinite then float d else null

/-- The number that a field of a shape is declared as, if it is. -/
def declaredNumber? (s : Shape) : Value → Option Double
  | float d => if s.holdsNumbers then some d else none
  | _ => none

/-- Whether a record declares itself an instance of a data class, one without fields. -/
def isBlankInstance (fs : Fields) : Bool :=
  match Entries.lookup "__dataclass_fields__" fs with
  | some (object []) => true
  | _ => false

mutual
/-- The stored form of a value. -/
def flatten (form : FlatForm) : Value → Value
  | float d => flatNumber d
  | instant t => text t.stamp
  | identifier u => text u.text
  | list xs => list (flattenItems form xs)
  | tuple xs => list (flattenItems form xs)
  | object fs => object (flattenEntries form fs)
  | record fs => if isBlankInstance fs then object [] else record fs
  | typed s fs => object (flattenFields form s [] fs)
  | v => v

/-- The items of a row, flattened. -/
def flattenItems (form : FlatForm) : List Value → List Value
  | [] => []
  | x :: xs => flatten form x :: flattenItems form xs

/-- The entries of a table, flattened. -/
def flattenEntries (form : FlatForm) : List (String × Value) → List (String × Value)
  | [] => []
  | (k, v) :: fs => (k, flatten form v) :: flattenEntries form fs

/-- The fields of a typed value, flattened, after those of the `past` names. -/
def flattenFields (form : FlatForm) (s : Shape) (past : List String) :
    List (String × Value) → List (String × Value)
  | [] => []
  | (k, v) :: fs =>
    if form.omitNull && v.isNull then flattenFields form s (k :: past) fs
    else
      (if form.outerNames && !s.isFurther past k then s.outerName k else k,
        match declaredNumber? s v with
        | some d => float d
        | none => flatten form v) :: flattenFields form s (k :: past) fs
end

/-- How many values of no declared kind may stand inside one another. -/
def maxDepth : Nat := 255

mutual
/-- What keeps a value from being stored.  The value is of no declared kind and stands inside
`depth` others: too many are in the way, and so is a record that is no instance of a data class. -/
def obstacle? (depth : Nat) (v : Value) : Option Fault :=
  if maxDepth ≤ depth then some .tooDeep
  else
    match v with
    | list xs => obstacleItems? (depth + 1) xs
    | tuple xs => obstacleItems? (depth + 1) xs
    | object fs => obstacleEntries? (depth + 1) fs
    | typed s fs => obstacleFields? (depth + 1) s [] fs
    | record fs => if isBlankInstance fs then none else some (.unstorable "SimpleNamespace")
    | _ => none

/-- The first obstacle in a row of values of no declared kind. -/
def obstacleItems? (depth : Nat) : List Value → Option Fault
  | [] => none
  | x :: xs => (obstacle? depth x).or (obstacleItems? depth xs)

/-- The first obstacle in a table of values of no declared kind. -/
def obstacleEntries? (depth : Nat) : List (String × Value) → Option Fault
  | [] => none
  | (_, v) :: fs => (obstacle? depth v).or (obstacleEntries? depth fs)

/-- The first obstacle in the fields of a typed value, after those of the `past` names. -/
def obstacleFields? (depth : Nat) (s : Shape) (past : List String) :
    List (String × Value) → Option Fault
  | [] => none
  | (k, v) :: fs =>
    (if s.isFree past k then obstacle? depth v else declaredObstacle? depth v).or
      (obstacleFields? depth s (k :: past) fs)

/-- What keeps a value of declared kind from being stored. -/
def declaredObstacle? (depth : Nat) : Value → Option Fault
  | list xs => declaredObstacles? depth xs
  | object fs => obstacleEntries? depth fs
  | typed s fs => obstacleFields? depth s [] fs
  | _ => none

/-- The first obstacle in a row of values of declared kind. -/
def declaredObstacles? (depth : Nat) : List Value → Option Fault
  | [] => none
  | x :: xs => (declaredObstacle? depth x).or (declaredObstacles? depth xs)
end

/-- The stored form of a typed value, if it has one. -/
def flatten? (form : FlatForm) (v : Value) : Except Fault Value :=
  match declaredObstacle? 0 v with
  | some f => .error f
  | none => .ok (v.flatten form)

mutual
/-- A value of no declared kind that stands inside `depth` others, with the typed values and the
instances of data classes in it turned into tables as far down as values are looked into. -/
def workingAt (depth : Nat) (v : Value) : Value :=
  if maxDepth ≤ depth then v
  else
    match v with
    | list xs => list (workingItems (depth + 1) xs)
    | tuple xs => tuple (workingItems (depth + 1) xs)
    | object fs => object (workingEntries (depth + 1) fs)
    | record fs => if isBlankInstance fs then object [] else record fs
    | typed s fs => object (workingFields (depth + 1) s [] fs)
    | v => v

/-- The working forms of a row of values of no declared kind. -/
def workingItems (depth : Nat) : List Value → List Value
  | [] => []
  | x :: xs => workingAt depth x :: workingItems depth xs

/-- The working forms in a table of values of no declared kind. -/
def workingEntries (depth : Nat) : List (String × Value) → List (String × Value)
  | [] => []
  | (k, v) :: fs => (k, workingAt depth v) :: workingEntries depth fs

/-- The working forms of the fields of a typed value, after those of the `past` names. -/
def workingFields (depth : Nat) (s : Shape) (past : List String) :
    List (String × Value) → List (String × Value)
  | [] => []
  | (k, v) :: fs =>
    (k, if s.isFree past k then workingAt depth v else declaredWorking depth v) ::
      workingFields depth s (k :: past) fs

/-- A value of declared kind with the typed values in it turned into tables. -/
def declaredWorking (depth : Nat) : Value → Value
  | list xs => list (declaredWorkings depth xs)
  | tuple xs => tuple (declaredWorkings depth xs)
  | object fs => object (workingEntries depth fs)
  | typed s fs => object (workingFields depth s [] fs)
  | v => v

/-- The working forms of a row of values of declared kind. -/
def declaredWorkings (depth : Nat) : List Value → List Value
  | [] => []
  | x :: xs => declaredWorking depth x :: declaredWorkings depth xs
end

/-- The working form of a typed value: its fields under their inner names, and tables for the typed
values inside. -/
def working (v : Value) : Value := declaredWorking 0 v

end Value

end EventCanvas
