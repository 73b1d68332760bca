import EventCanvas.Text.Blank
import EventCanvas.Value.Display

/-!
# Placeholders in action texts

A text may refer to a variable as `$` and to the value of a node as `#`, each
followed by a name in braces.  `pieces` cuts a text into plain characters and
references in one scan from the left: a reference starts at the first place
where one can start and its name runs to the first closing brace.
`interpolate` puts the bound values in place of the references in that one
scan, so what is put in is never looked at again; `placeholders` lists the
references of the same scan.
-/

namespace EventCanvas

/-- What a reference refers to. -/
inductive Source where
  | variable
  | node
deriving DecidableEq

namespace Source

/-- The sign that opens a reference. -/
def sigil : Source → Char
  | .variable => '$'
  | .node => '#'

/-- The source that a sign stands for. -/
def ofSigil? (c : Char) : Option Source :=
  if c = '$' then some .variable else if c = '#' then some .node else none

/-- The name of a source. -/
def name : Source → String
  | .variable => "variable"
  | .node => "node"

end Source

/-- A part of a text: a character or a reference with its name as written. -/
inductive Piece where
  | plain (c : Char)
  | reference (source : Source) (name : List Char)
deriving DecidableEq

namespace Piece

/-- The characters that a piece was cut from. -/
def chars : Piece → List Char
  | plain c => [c]
  | reference s name => s.sigil :: '\x7b' :: (name ++ ['\x7d'])

end Piece

namespace Placeholder

/-- A character that may stand in a name. -/
def isNameChar (c : Char) : Bool := c ≠ '\x7d'

/-- The name at the front of a text, if it is not empty and a brace closes it, and the rest after
the brace. -/
def nameAt? (cs : List Char) : Option (List Char × List Char) :=
  match cs.dropWhile isNameChar with
  | [] => none
  | _ :: rest =>
    if (cs.takeWhile isNameChar).isEmpty then none else some (cs.takeWhile isNameChar, rest)

/-- The reference at the very front of a text, and the rest after it. -/
def reference? : List Char → Option (Source × List Char × List Char)
  | c :: '\x7b' :: cs =>
    match Source.ofSigil? c with
    | none => none
    | some s => (nameAt? cs).map fun r => (s, r)
  | _ => none

theorem length_lt_of_nameAt? {cs name rest : List Char} (h : nameAt? cs = some (name, rest)) :
    rest.length < cs.length := by
  unfold nameAt? at h
  have le := (List.dropWhile_suffix isNameChar (l := cs)).length_le
  split at h
  · cases h
  · next hd =>
    rw [hd] at le
    split at h
    · cases h
    · cases h
      exact le

theorem length_lt_of_reference? {cs name rest : List Char} {s : Source}
    (h : reference? cs = some (s, name, rest)) : rest.length < cs.length := by
  unfold reference? at h
  split at h
  · split at h
    · cases h
    · obtain ⟨r, hr, heq⟩ := Option.map_eq_some_iff.1 h
      cases heq
      have := length_lt_of_nameAt? hr
      simp only [List.length_cons]
      omega
  · cases h

/-- Cuts a text into its pieces. -/
def pieces (cs : List Char) : List Piece :=
  match h : reference? cs with
  | some (s, name, rest) =>
    have := length_lt_of_reference? h
    .reference s name :: pieces rest
  | none =>
    match cs with
    | [] => []
    | c :: rest => .plain c :: pieces rest
termination_by cs.length

/-- The name that a reference looks up. -/
def lookupName (name : List Char) : String := Text.trim (String.ofList name)

/-- Where references find their values. -/
abbrev Bindings := Source → String → Option Value

/-- The text that takes the place of a piece. -/
def fillPiece (bound : Bindings) : Piece → Except Fault (List Char)
  | .plain c => .ok [c]
  | .reference s name =>
    match bound s (lookupName name) with
    | none => .ok (Piece.reference s name).chars
    | some v => v.display.map String.toList

/-- Puts the bound values in place of the references of a text. -/
def fill (bound : Bindings) : List Piece → Except Fault (List Char)
  | [] => .ok []
  | p :: ps => do
    let front ← fillPiece bound p
    let rest ← fill bound ps
    pure (front ++ rest)

/-- The bindings given by a table of variables and a table of node values. -/
def bindings (vars nodeValues : Table) : Bindings
  | .variable, name => Entries.lookup (.text name) vars
  | .node, name => Entries.lookup (.text name) nodeValues

/-- Puts variables and node values in place of the references to them.  References to what is not
bound stay as they are. -/
def interpolate (template : String) (vars nodeValues : Table) : Except Fault String :=
  (fill (bindings vars nodeValues) (pieces template.toList)).map String.ofList

/-- Whether a piece refers to one of some sources. -/
def refersTo (sources : Source → Bool) : Piece → Bool
  | .plain _ => false
  | .reference s _ => sources s

/-- Puts values in place of references, up to the first reference to one of some sources, which
cannot be read for the reason given. -/
def interpolateUpTo (unreadable : Source → Bool) (reason : Fault) (template : String)
    (vars nodeValues : Table) : Except Fault String := do
  let readable (p : Piece) : Bool := !refersTo unreadable p
  let ps := pieces template.toList
  let front ← fill (bindings vars nodeValues) (ps.takeWhile readable)
  if (ps.dropWhile readable).isEmpty then return String.ofList front else throw reason

/-- The references of a text in order, with the names they look up. -/
def placeholders (template : String) : List (Source × String) :=
  (pieces template.toList).filterMap fun
    | .plain _ => none
    | .reference s name => some (s, lookupName name)

/-- The template that a value gives: a text itself, and no text if the value counts as false. -/
def template? (v : Value) : Except Fault String :=
  match v with
  | .text s => .ok s
  | v => if v.truthy then .error (.wrongKind "expected string or bytes-like object") else .ok ""

end Placeholder

end EventCanvas
