import EventCanvas.Fault

/-!
# Turning values into rows and tables

`items?` is the row of values that a value yields when it is gone through one by
one, and `toTable?` the table made of a value: of another table, or of a row
whose items are pairs.  `contains?` looks for something in a value.
-/

namespace EventCanvas.Value

/-- What a value yields when it is gone through: the items of a row, the characters of a text, the
keys of a table, the fields of a typed value as pairs. -/
def items? : Value → Except Fault (List Value)
  | list xs => .ok xs
  | tuple xs => .ok xs
  | text s => .ok (s.toList.map fun c => text (String.singleton c))
  | object fs => .ok (fs.map fun e => text e.1)
  | typed s fs => .ok (typed s fs).fieldPairs
  | v => .error (.wrongKind ("'" ++ v.kindName ++ "' object is not iterable"))

/-- Whether a text is a part of another. -/
def isPart (part whole : String) : Bool := part = "" || (whole.splitOn part).length ≠ 1

/-- Whether something is found in a value, where one can look for it: a key of a table, an item of
a row, a part of a text. -/
def contains? : Value → Value → Except Fault Bool
  | object fs, text s => .ok (Entries.has s fs)
  | text whole, text part => .ok (isPart part whole)
  | text _, v =>
    .error (.wrongKind ("'in <string>' requires string as left operand, not " ++ v.fullKindName))
  | list xs, v => .ok (xs.any fun x => x.equal v)
  | tuple xs, v => .ok (xs.any fun x => x.equal v)
  | typed s fs, v => .ok ((typed s fs).fieldPairs.any fun x => x.equal v)
  | object _, v =>
    match v.keyFault? with
    | some kind => .error (.unhashable kind)
    | none => .ok false
  | v, _ => .error (.notIterable v.fullKindName)

/-- Checks that a value can be the key of a table. -/
def asKey (v : Value) : Except Fault Value :=
  match v.keyFault? with
  | some kind => .error (.unhashable kind)
  | none => .ok v

/-- The key and the value that an item of a row gives. -/
def pair? (v : Value) : Except Fault (Value × Value) :=
  match v.items? with
  | .error _ =>
    .error (.wrongKind "cannot convert dictionary update sequence element to a sequence")
  | .ok [k, a] => (asKey k).map fun k => (k, a)
  | .ok _ => .error (.wrongValue "dictionary update sequence element has the wrong length")

/-- The table of a row of pairs, put one after the other. -/
def putPairs : Table → List Value → Except Fault Table
  | t, [] => .ok t
  | t, v :: vs => do
    let (k, a) ← pair? v
    putPairs (Entries.put k a t) vs

/-- The table that a value gives. -/
def toTable? : Value → Except Fault Table
  | object fs => .ok (Table.ofFields fs)
  | v => do putPairs [] (← v.items?)

end EventCanvas.Value
