import EventCanvas.Value

/-!
# The tables of a TOML text

A `Section` is a table under construction.  TOML lets a table be named in
several places and says which of them may define what: `declare` is a header
`[a.b]`, `append` a header `[[a.b]]`, and `assign` a line `a.b = value`.  Each
fails on a name that was defined already.
-/

namespace EventCanvas.Toml

/-- How a table came about. -/
inductive Origin where
  /-- On the way to a table that has a header. -/
  | implied
  /-- By its own header. -/
  | declared
  /-- On the way to a value that was assigned. -/
  | dotted
deriving DecidableEq

/-- What a name stands for. -/
inductive Item where
  | value (v : Value)
  | table (origin : Origin) (entries : List (String × Item))
  /-- A row of tables, of which only the last one still grows. -/
  | rows (earlier : List (List (String × Item))) (last : List (String × Item))

/-- The names of a table under construction. -/
abbrev Section := Entries String Item

namespace Section

/-- Changes the table that a path leads to.  Tables on the way that there are not are implied. -/
def modifyAt (f : Section → Option Section) : List String → Section → Option Section
  | [], es => f es
  | k :: ks, es =>
    match Entries.lookup k es with
    | none => do return Entries.put k (.table .implied (← modifyAt f ks [])) es
    | some (.table origin inner) => do
      return Entries.put k (.table origin (← modifyAt f ks inner)) es
    | some (.rows earlier last) => do
      return Entries.put k (.rows earlier (← modifyAt f ks last)) es
    | some (.value _) => none

/-- Gives a name a table by its header. -/
def declareName (k : String) (es : Section) : Option Section :=
  match Entries.lookup k es with
  | none => some (Entries.put k (.table .declared []) es)
  | some (.table .implied inner) => some (Entries.put k (.table .declared inner) es)
  | some _ => none

/-- Gives a name one more table in its row. -/
def appendName (k : String) (es : Section) : Option Section :=
  match Entries.lookup k es with
  | none => some (Entries.put k (.rows [] []) es)
  | some (.rows earlier last) => some (Entries.put k (.rows (earlier ++ [last]) []) es)
  | some _ => none

/-- Gives a name under a path a value. -/
def assign (v : Value) : List String → Section → Option Section
  | [], _ => none
  | [k], es => if Entries.has k es then none else some (Entries.put k (.value v) es)
  | k :: ks, es =>
    match Entries.lookup k es with
    | none => do return Entries.put k (.table .dotted (← assign v ks [])) es
    | some (.table .declared _) | some (.rows ..) | some (.value _) => none
    | some (.table _ inner) => do return Entries.put k (.table .dotted (← assign v ks inner)) es

/-- The header `[path]`. -/
def declare (path : List String) (es : Section) : Option Section :=
  match path.getLast? with
  | none => none
  | some k => modifyAt (declareName k) path.dropLast es

/-- The header `[[path]]`. -/
def append (path : List String) (es : Section) : Option Section :=
  match path.getLast? with
  | none => none
  | some k => modifyAt (appendName k) path.dropLast es

end Section

mutual
/-- What a name stands for, as a value. -/
def Item.toValue : Item → Value
  | .value v => v
  | .table _ es => .object (Item.toFields es)
  | .rows earlier last => .list (Item.toRows earlier ++ [.object (Item.toFields last)])

/-- The entries of a table as fields. -/
def Item.toFields : List (String × Item) → List (String × Value)
  | [] => []
  | (k, i) :: es => (k, i.toValue) :: Item.toFields es

/-- A row of tables as values. -/
def Item.toRows : List (List (String × Item)) → List Value
  | [] => []
  | es :: more => .object (Item.toFields es) :: Item.toRows more
end

end EventCanvas.Toml
