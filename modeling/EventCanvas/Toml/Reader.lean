import EventCanvas.Toml.Scalar
import EventCanvas.Toml.Table

/-!
# Reading TOML

`Toml.read` reads the tables of a TOML text: headers, dotted and quoted names,
texts, numbers, truth values, dates and times, lists and tables in braces.
-/

namespace EventCanvas.Toml

/-! ## Names -/

/-- The characters of a name without quotes. -/
def isBareChar (c : Char) : Bool := c.isAlphanum || c = '-' || c = '_'

/-- One name at the front. -/
def name (cs : List Char) : Parse String :=
  match cs with
  | '"' :: rest => basicText rest
  | '\'' :: rest => literalText rest
  | _ =>
    let bare := cs.takeWhile isBareChar
    if bare.isEmpty then none else some (String.ofList bare, cs.dropWhile isBareChar)

/-- Names with points between them. -/
def pathTail : Nat → List Char → Option (List String × List Char)
  | 0, _ => none
  | fuel + 1, cs => do
    let (k, rest) ← name cs
    match skipBlanks rest with
    | '.' :: more => do
      let (ks, after) ← pathTail fuel (skipBlanks more)
      return (k :: ks, after)
    | after => return ([k], after)

/-- The path at the front. -/
def path (cs : List Char) : Parse (List String) := pathTail (cs.length + 1) cs

/-! ## Values -/

/-- A text without the comment at its front, if it begins with one.  A comment holds no control
characters. -/
def skipComment (cs : List Char) : Option (List Char) :=
  match cs with
  | '#' :: rest =>
    if (rest.takeWhile (· ≠ '\n')).any isControl then none
    else some (rest.dropWhile (· ≠ '\n'))
  | _ => some cs

/-- A text without the blanks, line breaks and comments at its front. -/
def skipLines : Nat → List Char → Option (List Char)
  | 0, _ => none
  | fuel + 1, cs =>
    let rest := cs.dropWhile fun c => isLineBlank c || c = '\n'
    match rest with
    | '#' :: _ => do skipLines fuel (← skipComment rest)
    | _ => some rest

/-- A text without the blanks, line breaks and comments at its front. -/
def skipBetween (cs : List Char) : Option (List Char) := skipLines (cs.length + 1) cs

mutual
/-- The value at the front. -/
def valueAt : Nat → List Char → Except ReadFault (Value × List Char)
  | 0, _ => .error .malformed
  | fuel + 1, cs =>
    match cs with
    | '[' :: rest => do
      match ← required (skipBetween rest) with
      | ']' :: more => return (.list [], more)
      | inner => itemsAt fuel [] inner
    | '\x7b' :: rest =>
      match skipBlanks rest with
      | '\x7d' :: more => .ok (.object [], more)
      | inner => fieldsAt fuel [] inner
    | _ => scalar cs

/-- The items of a list from the next one on; those before it are given in reverse. -/
def itemsAt : Nat → List Value → List Char → Except ReadFault (Value × List Char)
  | 0, _, _ => .error .malformed
  | fuel + 1, acc, cs => do
    let (v, rest) ← valueAt fuel cs
    match ← required (skipBetween rest) with
    | ']' :: more => return (.list (v :: acc).reverse, more)
    | ',' :: more => do
      match ← required (skipBetween more) with
      | ']' :: after => return (.list (v :: acc).reverse, after)
      | inner => itemsAt fuel (v :: acc) inner
    | _ => .error .malformed

/-- The entries of a table in braces from the next one on, with those before it. -/
def fieldsAt : Nat → Section → List Char → Except ReadFault (Value × List Char)
  | 0, _, _ => .error .malformed
  | fuel + 1, acc, cs => do
    let (ks, rest) ← required (path cs)
    match rest with
    | '=' :: more => do
      let (v, after) ← valueAt fuel (skipBlanks more)
      let next ← required (acc.assign v ks)
      match skipBlanks after with
      | '\x7d' :: done => return (.object (Item.toFields next), done)
      | ',' :: inner => fieldsAt fuel next (skipBlanks inner)
      | _ => .error .malformed
    | _ => .error .malformed
end

/-- The value at the front of a text. -/
def value (cs : List Char) : Except ReadFault (Value × List Char) :=
  valueAt (2 * cs.length + 2) cs

/-! ## Statements -/

/-- What was read so far: all tables, and the path of the last header. -/
structure Document where
  root : Section
  header : List String

/-- A header, after its opening bracket. -/
def headerAt (d : Document) : List Char → Option (Document × List Char)
  | '[' :: rest => do
    let (ks, after) ← path (skipBlanks rest)
    match after with
    | ']' :: ']' :: more => return (⟨← d.root.append ks, ks⟩, more)
    | _ => none
  | rest => do
    let (ks, after) ← path (skipBlanks rest)
    match after with
    | ']' :: more => return (⟨← d.root.declare ks, ks⟩, more)
    | _ => none

/-- A name and its value. -/
def assignment (d : Document) (cs : List Char) : Except ReadFault (Document × List Char) := do
  let (ks, after) ← required (path cs)
  match after with
  | '=' :: more => do
    let (v, rest) ← value (skipBlanks more)
    let root ← required (d.root.modifyAt (Section.assign v ks) d.header)
    return ({ d with root }, rest)
  | _ => .error .malformed

/-- One line without its end: a header, or a name and its value, or nothing. -/
def statement (d : Document) (cs : List Char) : Except ReadFault (Document × List Char) :=
  match cs with
  | '[' :: rest => required (headerAt d rest)
  | '#' :: _ | '\n' :: _ | [] => .ok (d, cs)
  | _ => assignment d cs

/-- All lines from the front on. -/
def lines : Nat → Document → List Char → Except ReadFault Document
  | 0, _, _ => .error .malformed
  | fuel + 1, d, cs => do
    let (d, rest) ← statement d (skipBlanks cs)
    match ← required (skipComment (skipBlanks rest)) with
    | [] => return d
    | '\n' :: more => lines fuel d more
    | _ => .error .malformed

/-- A text with line feeds as its only line breaks. -/
def plainBreaks : List Char → List Char
  | '\r' :: '\n' :: cs => '\n' :: plainBreaks cs
  | c :: cs => c :: plainBreaks cs
  | [] => []

/-- Reads the tables of a TOML text. -/
def read (s : String) : Except ReadFault Fields := do
  let cs := plainBreaks s.toList
  let d ← lines (cs.length + 1) ⟨[], []⟩ cs
  return Item.toFields d.root

end EventCanvas.Toml
