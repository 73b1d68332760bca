import EventCanvas.Value.Text

/-!
# Writing JSON

`Json.compact` writes a value on one line, with a blank after each comma and
colon; `Json.pretty` writes it on indented lines.  Characters outside ASCII
stand as themselves.  Numbers that JSON cannot express are written by name, and
a value of a kind that JSON does not have is written as its text.
-/

namespace EventCanvas.Json

/-- A character inside a JSON text. -/
def escapeChar (c : Char) : List Char :=
  if c = '"' then ['\\', '"']
  else if c = '\\' then ['\\', '\\']
  else if c = '\n' then ['\\', 'n']
  else if c = '\r' then ['\\', 'r']
  else if c = '\t' then ['\\', 't']
  else if c.toNat = 8 then ['\\', 'b']
  else if c.toNat = 12 then ['\\', 'f']
  else if c.toNat < 32 then '\\' :: 'u' :: Text.hexDigits 4 c.toNat
  else [c]

/-- A JSON text with its marks. -/
def textLiteral (s : String) : String :=
  String.ofList ('"' :: (s.toList.flatMap escapeChar ++ ['"']))

/-- A number as JSON, or its name if JSON cannot express it. -/
def numberLiteral (d : Double) : String :=
  match d.classify with
  | .nan => "NaN"
  | .infinite negative => if negative then "-Infinity" else "Infinity"
  | .finite .. => d.text

/-- A value without parts as JSON. -/
def leaf : Value → String
  | .null => "null"
  | .bool b => if b then "true" else "false"
  | .int n => toString n
  | .float d => numberLiteral d
  | .text s => textLiteral s
  | v => textLiteral v.message

/-! ## On one line -/

mutual
/-- A value as JSON on one line. -/
def compact : Value → String
  | .list xs => "[" ++ ", ".intercalate (compactItems xs) ++ "]"
  | .tuple xs => "[" ++ ", ".intercalate (compactItems xs) ++ "]"
  | .object fs => "\x7b" ++ ", ".intercalate (compactFields fs) ++ "\x7d"
  | v => leaf v

/-- The items of a row as JSON. -/
def compactItems : List Value → List String
  | [] => []
  | x :: xs => compact x :: compactItems xs

/-- The entries of a table as JSON. -/
def compactFields : List (String × Value) → List String
  | [] => []
  | (k, v) :: fs => (textLiteral k ++ ": " ++ compact v) :: compactFields fs
end

/-! ## On indented lines -/

/-- A line break and the indentation of a depth. -/
def lineBreak (depth : Nat) : String := String.ofList ('\n' :: List.replicate (2 * depth) ' ')

/-- Items between brackets, one to a line; nothing between the brackets if there are none. -/
def block (opening closing : String) (depth : Nat) : List String → String
  | [] => opening ++ closing
  | items =>
    opening ++ lineBreak (depth + 1) ++ ("," ++ lineBreak (depth + 1)).intercalate items ++
      lineBreak depth ++ closing

mutual
/-- A value as JSON on indented lines, at a depth. -/
def indented (depth : Nat) : Value → String
  | .list xs => block "[" "]" depth (indentedItems (depth + 1) xs)
  | .tuple xs => block "[" "]" depth (indentedItems (depth + 1) xs)
  | .object fs => block "\x7b" "\x7d" depth (indentedFields (depth + 1) fs)
  | v => leaf v

/-- The items of a row, each at the depth. -/
def indentedItems (depth : Nat) : List Value → List String
  | [] => []
  | x :: xs => indented depth x :: indentedItems depth xs

/-- The entries of a table, each at the depth. -/
def indentedFields (depth : Nat) : List (String × Value) → List String
  | [] => []
  | (k, v) :: fs => (textLiteral k ++ ": " ++ indented depth v) :: indentedFields depth fs
end

/-- A value as JSON on indented lines. -/
def pretty (v : Value) : String := indented 0 v

end EventCanvas.Json
