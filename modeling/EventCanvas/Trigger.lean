import EventCanvas.Text.Quoted

/-!
# Written triggers

A trigger names a node, a kind of event and optionally a value, written
`NODE:EVENT` or `NODE:EVENT=VALUE`.  The value begins at the first equality
sign; of what stands before it, the event begins after the last colon.  So a
node's name may hold colons and a value may hold anything.
-/

namespace EventCanvas

/-- What to trigger: a node, an event and, for an input, the value typed. -/
structure Trigger where
  node : String
  event : String
  value : Option String
deriving DecidableEq

namespace Trigger

/-- Splits at the first occurrence of a character: what stands before it and, if it occurs, what
stands after it. -/
def splitFirst (c : Char) (cs : List Char) : List Char × Option (List Char) :=
  match cs.dropWhile (· ≠ c) with
  | [] => (cs, none)
  | _ :: rest => (cs.takeWhile (· ≠ c), some rest)

/-- Splits at the last occurrence of a character, if it occurs. -/
def splitLast? (c : Char) (cs : List Char) : Option (List Char × List Char) :=
  match splitFirst c cs.reverse with
  | (_, none) => none
  | (back, some front) => some (front.reverse, back.reverse)

/-- Reads a written trigger. -/
def ofChars? (cs : List Char) : Option Trigger :=
  let (head, value) := splitFirst '=' cs
  match splitLast? ':' head with
  | none => none
  | some (node, event) =>
    if node.isEmpty || event.isEmpty then none
    else some ⟨String.ofList node, String.ofList event, value.map String.ofList⟩

/-- Reads a written trigger. -/
def ofText? (s : String) : Option Trigger := ofChars? s.toList

/-- Writes a trigger. -/
def text (t : Trigger) : String :=
  t.node ++ ":" ++ t.event ++
    match t.value with
    | none => ""
    | some v => "=" ++ v

end Trigger

end EventCanvas
