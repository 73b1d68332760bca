import EventCanvas.Graph
import EventCanvas.Log

/-!
# Upgrading stored payloads

Early payloads kept what a component looks like directly in the node's data,
named the component after its renderer or inside the data, and did not always
write a label.  `Upgrade.payload` brings such a payload into the present form
and leaves one that has it alone; it never rejects anything.  `Upgrade.notes`
lists what is logged on the way.
-/

namespace EventCanvas.Upgrade

/-- The fields that belong to a node's properties and were once kept beside them. -/
def presentationFields : List String :=
  ["text", "fontSize", "color", "fontWeight", "placeholder", "type", "required", "variant"]

/-- The suffix of a renderer's name. -/
def suffix : List Char := "Node".toList

/-- The component named by the renderer whose name a value is. -/
def rendererComponent? : Value → Option Component
  | .text s =>
    let cs := s.toList
    if (Component.ofName? s).isNone && suffix.isSuffixOf cs then
      Component.ofName? (String.ofList (cs.take (cs.length - suffix.length)))
    else none
  | _ => none

/-- The fields of a node with a renderer's name replaced by the component's. -/
def renameType (node : Fields) : Fields :=
  match (Entries.lookup "type" node).bind rendererComponent? with
  | some c => Entries.put "type" (.text c.name) node
  | none => node

/-- The data of a node; none counts as empty. -/
def dataOf (node : Fields) : Fields :=
  match Entries.lookup "data" node with
  | some (.object fs) => fs
  | _ => []

/-- Whether a node has a known component as its type. -/
def hasKnownType (node : Fields) : Bool :=
  ((Entries.lookup "type" node).bind Component.ofValue?).isSome

/-- The component named inside the data of a node. -/
def innerType? (node : Fields) : Option Value := Entries.lookup "componentType" (dataOf node)

/-- The fields of a node with the component named inside the data as its type, if it has no known
type of its own. -/
def adoptType (node : Fields) : Fields :=
  match (innerType? node).bind Component.ofValue? with
  | some c => if hasKnownType node then node else Entries.put "type" (.text c.name) node
  | none => node

/-- The properties in the data of a node; none count as empty. -/
def propsOf (data : Fields) : Fields :=
  match Entries.lookup "props" data with
  | some (.object fs) => fs
  | _ => []

/-- The presentation fields kept beside the properties, in their fixed order. -/
def misplaced (data : Fields) : Fields :=
  presentationFields.filterMap fun name => (Entries.lookup name data).map fun v => (name, v)

/-- The properties with the misplaced fields added; a property that is there already stays. -/
def gatheredProps (data : Fields) : Fields :=
  (misplaced data).foldl (fun acc e => Entries.putNew e.1 e.2 acc) (propsOf data)

/-- The data without the misplaced fields. -/
def withoutMisplaced (data : Fields) : Fields :=
  data.filter fun e => !presentationFields.contains e.1

/-- Moves the misplaced fields into the properties. -/
def gatherProps (data : Fields) : Fields :=
  if (misplaced data).isEmpty && !Entries.has "props" data then data
  else Entries.put "props" (.object (gatheredProps data)) (withoutMisplaced data)

/-- The field of a table, null if it is absent. -/
def fieldOrNull (name : String) (fs : Fields) : Value := (Entries.lookup name fs).getD .null

/-- The label of a node that has none: its type and its id. -/
def defaultLabel (node : Fields) : String :=
  (fieldOrNull "type" node).message ++ "-" ++ (fieldOrNull "id" node).message

/-- Gives the data a label if it has none. -/
def addLabel (node data : Fields) : Fields :=
  if (fieldOrNull "label" data).isNull then
    Entries.put "label" (.text (defaultLabel node)) data
  else data

/-- The fields of a node in the present form. -/
def nodeFields (raw : Fields) : Fields :=
  let node := adoptType (renameType raw)
  let data := gatherProps (Entries.remove "componentType" (dataOf raw))
  Entries.put "data" (.object (addLabel node data)) node

/-- A node in the present form; what is no table stays as it is. -/
def node : Value → Value
  | .object fs => .object (nodeFields fs)
  | v => v

/-- The nodes of a payload, if they are a list. -/
def nodesOf? (source : Fields) : Option (List Value) :=
  match Entries.lookup "nodes" source with
  | some (.list xs) => some xs
  | _ => none

/-- A field of a payload that is a list, else the empty list. -/
def listOrEmpty (name : String) (source : Fields) : Value :=
  match Entries.lookup name source with
  | some (.list xs) => .list xs
  | _ => .list []

/-- A field of a payload that is a table, else the empty table. -/
def tableOrEmpty (name : String) (source : Fields) : Value :=
  match Entries.lookup name source with
  | some (.object fs) => .object fs
  | _ => .object []

/-- The three parts of the upgraded payload. -/
def parts (source : Fields) : Fields :=
  match nodesOf? source with
  | none =>
    [("nodes", .list []), ("edges", .list []), ("settings", tableOrEmpty "settings" source)]
  | some xs =>
    [("nodes", .list (xs.map node)), ("edges", listOrEmpty "edges" source),
      ("settings", tableOrEmpty "settings" source)]

/-- The fields of the upgraded payload: its three parts and then what else there was. -/
def payloadFields (source : Fields) : Fields :=
  source.foldl (fun acc e => Entries.putNew e.1 e.2 acc) (parts source)

/-- The fields of a payload; what is no table has none. -/
def sourceOf : Value → Fields
  | .object fs => fs
  | _ => []

/-- A payload in the present form. -/
def payload (v : Value) : Value := .object (payloadFields (sourceOf v))

/-- The payload in the present form that a value gives: a graph is stored, anything else is taken
for a payload. -/
def payload? : Value → Except Fault Value
  | .typed .graph fs => (Value.typed .graph fs).flatten? .compact
  | v => .ok (payload v)

/-! ## Notes -/

/-- What is logged for a node: a component named inside its data that is not known. -/
def nodeNote? : Value → Option LogRecord
  | .object raw =>
    match innerType? raw with
    | none => none
    | some v =>
      if v.isNull || (Component.ofValue? v).isSome then none
      else
        some ⟨.info, "migration", "Node " ++ (fieldOrNull "id" raw).message ++
          ": dropping unknown componentType " ++ v.literal, false⟩
  | _ => none

/-- How many nodes the upgraded payload has. -/
def nodeCount (source : Fields) : Nat := ((nodesOf? source).getD []).length

/-- What is logged while a payload is upgraded. -/
def notes : Value → List LogRecord
  | .typed .graph _ => []
  | v =>
    let source := sourceOf v
    let changed := !(Value.object (payloadFields source)).equal (.object source)
    ((nodesOf? source).getD []).filterMap nodeNote? ++
      if changed then
        [⟨.info, "migration", "Migrated project data to current shape (" ++
          toString (nodeCount source) ++ " nodes)", false⟩]
      else []

/-- The payload inside a stored project row, or the payload itself. -/
def unwrap (v : Value) : Value :=
  match v with
  | .object fs =>
    match Entries.lookup "data" fs with
    | some (.object data) => if Entries.has "nodes" fs then v else .object data
    | _ => v
  | v => v

/-- Upgrades a payload and reads the graph in it. -/
def load (v : Value) : Except Fault Graph := do Graph.validate (← payload? v)

end EventCanvas.Upgrade
