import EventCanvas.Number.Shortest
import EventCanvas.Text.Quoted
import EventCanvas.Value

/-!
# The text of a value in messages

`Value.message` is how a value is named in a log line or a diagnostic, and
`Value.literal` how it is written inside another value: texts are quoted there.
Both are total, so building a message cannot fail: a whole number is taken to
have few enough digits to be written out.  `Value.display` refuses longer ones.
-/

namespace EventCanvas

/-- The literal form of an instant. -/
def Instant.literal (t : Instant) : String :=
  let parts := [t.year, t.month, t.day, t.hour, t.minute] ++
    (if t.micro ≠ 0 then [t.second, t.micro] else if t.second ≠ 0 then [t.second] else [])
  let zone := match t.zone with
    | .unknown => ""
    | .universal => ", tzinfo=datetime.timezone.utc"
    | .offset m => ", tzinfo=TzInfo(" ++ toString (60 * m) ++ ")"
  "datetime.datetime(" ++ ", ".intercalate (parts.map toString) ++ zone ++ ")"

namespace Value

/-- The literal form of a truth value. -/
def boolLiteral (b : Bool) : String := if b then "True" else "False"

mutual
/-- The literal form of a value. -/
def literal : Value → String
  | null => "None"
  | bool b => boolLiteral b
  | int n => toString n
  | float d => d.text
  | .text s => Text.quoted s
  | instant t => t.literal
  | identifier u => "UUID(" ++ Text.quoted u.text ++ ")"
  | list xs => "[" ++ ", ".intercalate (literals xs) ++ "]"
  | tuple xs =>
    match literals xs with
    | [x] => "(" ++ x ++ ",)"
    | ls => "(" ++ ", ".intercalate ls ++ ")"
  | object fs => "\x7b" ++ ", ".intercalate (entryLiterals fs) ++ "\x7d"
  | record fs => "namespace(" ++ ", ".intercalate (fieldLiterals fs) ++ ")"
  | typed s fs => s.name ++ "(" ++ ", ".intercalate (fieldLiterals fs) ++ ")"

/-- The literal forms of a row of values. -/
def literals : List Value → List String
  | [] => []
  | x :: xs => literal x :: literals xs

/-- The literal forms of the entries of a table, keys quoted. -/
def entryLiterals : List (String × Value) → List String
  | [] => []
  | (k, v) :: fs => (Text.quoted k ++ ": " ++ literal v) :: entryLiterals fs

/-- The literal forms of the fields of a record; a field without a name is not shown. -/
def fieldLiterals : List (String × Value) → List String
  | [] => []
  | (k, v) :: fs =>
    if k = "" then fieldLiterals fs else (k ++ "=" ++ literal v) :: fieldLiterals fs
end

/-- The text of a value in a message: a text stands as itself, a typed value shows its fields. -/
def message : Value → String
  | .text s => s
  | instant t => t.text.map fun c => if c = 'T' then ' ' else c
  | identifier u => u.text
  | typed _ fs => " ".intercalate (fieldLiterals fs)
  | v => literal v

end Value

end EventCanvas
