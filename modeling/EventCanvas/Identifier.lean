import EventCanvas.Text.Hex

/-!
# Universal identifiers

A 128-bit identifier.  `ofText?` reads the hyphenated form, plain or wrapped in
braces or after the name-space prefix, and the form of 32 digits; `text` writes
the hyphenated form in lower case.
-/

namespace EventCanvas

/-- An identifier of 128 bits. -/
structure Identifier where
  value : BitVec 128
deriving DecidableEq, Inhabited

namespace Identifier

/-- The sizes of the five groups of the hyphenated form. -/
def groups : List Nat := [8, 4, 4, 4, 12]

/-- The digits of a hyphenated form with groups of the given sizes. -/
def ungroup? : List Nat → List Char → Option (List Char)
  | [], cs => if cs.isEmpty then some [] else none
  | [n], cs => if cs.length = n then some cs else none
  | n :: ns, cs =>
    match cs.drop n with
    | '-' :: rest => (ungroup? ns rest).map (cs.take n ++ ·)
    | _ => none

/-- Puts hyphens between groups of the given sizes. -/
def group : List Nat → List Char → List Char
  | [], cs => cs
  | [_], cs => cs
  | n :: ns, cs => cs.take n ++ '-' :: group ns (cs.drop n)

/-- The hyphenated form inside the braces or after the prefix, if there are any. -/
def unwrapped (cs : List Char) : List Char :=
  if cs.length = 38 && cs.head? == some '\x7b' && cs.getLast? == some '\x7d' then
    (cs.drop 1).dropLast
  else if cs.take 9 = "urn:uuid:".toList then cs.drop 9
  else cs

/-- Reads an identifier. -/
def ofText? (s : String) : Option Identifier := do
  let cs := s.toList
  let digits ← if cs.length = 32 then some cs else ungroup? groups (unwrapped cs)
  let n ← Text.hexRow? digits
  some ⟨BitVec.ofNat 128 n⟩

/-- The hyphenated form in lower case. -/
def text (u : Identifier) : String :=
  let ds := Nat.toDigits 16 u.value.toNat
  String.ofList (group groups (List.replicate (32 - ds.length) '0' ++ ds))

end Identifier

end EventCanvas
