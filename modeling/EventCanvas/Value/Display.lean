import EventCanvas.Fault
import EventCanvas.Json.Writer
import EventCanvas.Number.Reader

/-!
# The text of a value on the canvas

`Value.display` is what a user sees of a runtime value: lists and tables are
shown as JSON, whole numbers without a fraction.  It fails for a list or table
with a part that JSON does not have, and wherever a whole number has more digits
than are written out.
-/

namespace EventCanvas.Value

/-- The fault of writing out a whole number with too many digits. -/
def tooLong : Fault :=
  .wrongValue ("Exceeds the limit (4300 digits) for integer string conversion; " ++
    "use sys.set_int_max_str_digits() to increase the limit")

/-- Whether a whole number has more digits than are written out. -/
def isLong (n : Int) : Bool := maxDigits < (Nat.toDigits 10 n.natAbs).length

mutual
/-- Whether a whole number in a value has more digits than are written out. -/
def hasLong : Value → Bool
  | int n => isLong n
  | list xs => hasLongItem xs
  | tuple xs => hasLongItem xs
  | object fs => hasLongField fs
  | record fs => hasLongField fs
  | typed _ fs => hasLongField fs
  | _ => false

/-- Whether an item of a row has such a number in it. -/
def hasLongItem : List Value → Bool
  | [] => false
  | x :: xs => hasLong x || hasLongItem xs

/-- Whether a field has such a number in it. -/
def hasLongField : List (String × Value) → Bool
  | [] => false
  | (_, v) :: fs => hasLong v || hasLongField fs
end

mutual
/-- What keeps a value from being written as JSON: the first part that is of a kind that JSON does
not have, or too long. -/
def unwritable? : Value → Option Fault
  | int n => if isLong n then some tooLong else none
  | list xs => unwritableItem? xs
  | tuple xs => unwritableItem? xs
  | object fs => unwritableField? fs
  | record _ => some (.unwritable "SimpleNamespace")
  | typed s _ => some (.unwritable s.name)
  | instant _ => some (.unwritable "datetime")
  | identifier _ => some (.unwritable "UUID")
  | _ => none

/-- The first such thing in a row. -/
def unwritableItem? : List Value → Option Fault
  | [] => none
  | x :: xs => (unwritable? x).or (unwritableItem? xs)

/-- The first such thing among the values of a table. -/
def unwritableField? : List (String × Value) → Option Fault
  | [] => none
  | (_, v) :: fs => (unwritable? v).or (unwritableField? fs)
end

/-- The text shown for a list or table. -/
def displayJson (v : Value) : Except Fault String :=
  match unwritable? v with
  | some f => .error f
  | none => .ok (Json.compact v)

/-- The text shown for a value. -/
def display : Value → Except Fault String
  | null => .ok "null"
  | bool b => .ok (if b then "true" else "false")
  | float d => .ok ((d.toInt?.map toString).getD d.text)
  | list xs => displayJson (list xs)
  | object fs => displayJson (object fs)
  | v => if v.hasLong then .error tooLong else .ok v.message

end EventCanvas.Value
