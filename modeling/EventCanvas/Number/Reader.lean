import EventCanvas.Number.Double
import EventCanvas.Text.Blank

/-!
# Reading a written number

The grammar of a written double: an optional sign, then a name (`inf`,
`infinity`, `nan`, in any case) or digits with an optional point and an optional
exponent.  `Double.ofText?` also takes spaces around it or single underscores
inside it, but not both.  `ReadFault` is what can be wrong with a text in which
numbers are written.
-/

namespace EventCanvas

/-- Why a text cannot be read. -/
inductive ReadFault where
  /-- The text does not follow the grammar. -/
  | malformed
  /-- An integer has more digits than are read. -/
  | tooManyDigits
deriving DecidableEq

/-- The most digits that an integer in decimal digits may have. -/
def maxDigits : Nat := 4300

/-- The value of a row of decimal digits. -/
def digitsValue (cs : List Char) : Nat :=
  cs.foldl (fun n c => 10 * n + (c.toNat - '0'.toNat)) 0

namespace Double

/-- The double nearest to `± digits · 10 ^ exponent`.  Exponents far out of range are answered
without computing the power. -/
def ofDecimal (negative : Bool) (digits : Nat) (exponent : Int) : Double :=
  let size := exponent + (Nat.toDigits 10 digits).length
  if digits = 0 then zero negative
  else if 400 < size then infinity negative
  else if size < -400 then zero negative
  else if 0 ≤ exponent then ofRatio negative (digits * Nat.pow 10 exponent.toNat) 1
  else ofRatio negative digits (Nat.pow 10 (-exponent).toNat)

/-- Takes a sign off the front of a text. -/
def splitSign : List Char → Bool × List Char
  | '-' :: cs => (true, cs)
  | '+' :: cs => (false, cs)
  | cs => (false, cs)

/-- The exponent part of a number: nothing, or `e` with a sign and digits. -/
def exponentOf? : List Char → Option Int
  | [] => some 0
  | c :: cs =>
    if c == 'e' || c == 'E' then
      let (negative, ds) := splitSign cs
      if ds.isEmpty || !ds.all Char.isDigit then none
      else
        let n : Int := digitsValue ds
        some (if negative then -n else n)
    else none

/-- A number without its sign: digits with an optional point, and an exponent. -/
def unsignedOf? (negative : Bool) (cs : List Char) : Option Double :=
  let whole := cs.takeWhile Char.isDigit
  let rest := cs.dropWhile Char.isDigit
  let (fraction, tail) := match rest with
    | '.' :: r => (r.takeWhile Char.isDigit, r.dropWhile Char.isDigit)
    | r => ([], r)
  if whole.isEmpty && fraction.isEmpty then none
  else
    (exponentOf? tail).map fun e =>
      ofDecimal negative (digitsValue (whole ++ fraction)) (e - fraction.length)

/-- Reads a number by the grammar, with nothing around it. -/
def ofChars? (cs : List Char) : Option Double :=
  let (negative, body) := splitSign cs
  let name := String.ofList (body.map Char.toLower)
  if name = "inf" || name = "infinity" then some (infinity negative)
  else if name = "nan" then some nan
  else unsignedOf? negative body

/-- Whether two underscores stand side by side. -/
def hasDoubleUnderscore : List Char → Bool
  | '_' :: '_' :: _ => true
  | _ :: cs => hasDoubleUnderscore cs
  | [] => false

/-- A text without its underscores, if none stands at an end and no two stand side by side. -/
def withoutUnderscores? (cs : List Char) : Option (List Char) :=
  if cs.head? == some '_' || cs.getLast? == some '_' || hasDoubleUnderscore cs then none
  else some (cs.filter (· != '_'))

/-- Reads a written number, without the spaces around it or without the underscores in it. -/
def ofText? (s : String) : Option Double :=
  (ofChars? (Text.trimBoth Text.isSpace s.toList)).or
    ((withoutUnderscores? s.toList).bind ofChars?)

end Double

end EventCanvas
