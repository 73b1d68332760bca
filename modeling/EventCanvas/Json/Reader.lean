import EventCanvas.Number.Reader
import EventCanvas.Text.Hex
import EventCanvas.Value

/-!
# Reading JSON

`Json.read` reads a JSON text into a dynamic value.  Objects keep the order of
their keys; of a key that is given twice the last value counts, in the place of
the first.  Besides JSON proper the names `NaN`, `Infinity` and `-Infinity` are
numbers.

The recursion runs on a bound for the steps still to be taken.  Twice the length
of the text is one: no character of it costs more than two steps.
-/

namespace EventCanvas.Json

/-- The outcome of reading from the front of a text: a result and the rest. -/
abbrev Parse (α : Type) := Except ReadFault (α × List Char)

/-- The four blanks of JSON. -/
def isJsonBlank (c : Char) : Bool := c = ' ' || c = '\t' || c = '\n' || c = '\r'

/-- A text without the blanks at its front. -/
def skipBlanks (cs : List Char) : List Char := cs.dropWhile isJsonBlank

/-- The number written by the four hexadecimal digits at the front. -/
def hexFour? (cs : List Char) : Option (Nat × List Char) :=
  if (cs.take 4).length = 4 then (Text.hexRow? (cs.take 4)).map fun n => (n, cs.drop 4) else none

/-- The character of a pair of surrogates. -/
def surrogatePair (high low : Nat) : Char :=
  Char.ofNat (0x10000 + (high - 0xD800) * 0x400 + (low - 0xDC00))

/-- The character of an escape by number: the digits stand at the front.  Half of a pair alone is
no character and is replaced. -/
def numberedEscape? (cs : List Char) : Option (Char × List Char) := do
  let (n, rest) ← hexFour? cs
  if 0xD800 ≤ n && n < 0xDC00 then
    match rest with
    | '\\' :: 'u' :: more =>
      match hexFour? more with
      | some (m, after) =>
        if 0xDC00 ≤ m && m < 0xE000 then some (surrogatePair n m, after)
        else some (Char.ofNat 0xFFFD, rest)
      | none => some (Char.ofNat 0xFFFD, rest)
    | _ => some (Char.ofNat 0xFFFD, rest)
  else if 0xDC00 ≤ n && n < 0xE000 then some (Char.ofNat 0xFFFD, rest)
  else some (Char.ofNat n, rest)

/-- The character of an escape by letter. -/
def letterEscape? (c : Char) : Option Char :=
  if c = '"' || c = '\\' || c = '/' then some c
  else if c = 'b' then some (Char.ofNat 8)
  else if c = 'f' then some (Char.ofNat 12)
  else if c = 'n' then some '\n'
  else if c = 'r' then some '\r'
  else if c = 't' then some '\t'
  else none

/-- The rest of a text literal, after its opening mark. -/
def textTail : Nat → List Char → List Char → Parse String
  | 0, _, _ => .error .malformed
  | fuel + 1, acc, cs =>
    match cs with
    | [] => .error .malformed
    | c :: rest =>
      if c = '"' then .ok (String.ofList acc.reverse, rest)
      else if c.toNat < 32 then .error .malformed
      else if c = '\\' then
        match rest with
        | 'u' :: digits =>
          match numberedEscape? digits with
          | some (d, more) => textTail fuel (d :: acc) more
          | none => .error .malformed
        | e :: more =>
          match letterEscape? e with
          | some d => textTail fuel (d :: acc) more
          | none => .error .malformed
        | [] => .error .malformed
      else textTail fuel (c :: acc) rest

/-! ## Numbers -/

/-- The fraction at the front: a point and digits, if both are there. -/
def fractionPart : List Char → List Char × List Char
  | '.' :: cs =>
    let ds := cs.takeWhile Char.isDigit
    if ds.isEmpty then ([], '.' :: cs) else (ds, cs.dropWhile Char.isDigit)
  | cs => ([], cs)

/-- The exponent at the front, if there is a whole one. -/
def exponentPart (cs : List Char) : Option Int × List Char :=
  match cs with
  | c :: rest =>
    if c = 'e' || c = 'E' then
      let (negative, body) := Double.splitSign rest
      let ds := body.takeWhile Char.isDigit
      if ds.isEmpty then (none, cs)
      else
        let n : Int := digitsValue ds
        (some (if negative then -n else n), body.dropWhile Char.isDigit)
    else (none, cs)
  | [] => (none, cs)

/-- The number whose digits stand at the front, after its sign. -/
def numberTail (negative : Bool) (cs : List Char) : Parse Value :=
  let whole := match cs with
    | '0' :: _ => ['0']
    | _ => cs.takeWhile Char.isDigit
  if whole.isEmpty then .error .malformed
  else
    let (fraction, afterFraction) := fractionPart (cs.drop whole.length)
    let (exponent, rest) := exponentPart afterFraction
    if fraction.isEmpty && exponent.isNone then
      if maxDigits < whole.length then .error .tooManyDigits
      else
        let n : Int := digitsValue whole
        .ok (.int (if negative then -n else n), rest)
    else
      .ok (.float (Double.ofDecimal negative (digitsValue (whole ++ fraction))
        (exponent.getD 0 - fraction.length)), rest)

/-- The names of values, with the values. -/
def names : List (List Char × Value) :=
  [("null".toList, .null), ("true".toList, .bool true), ("false".toList, .bool false),
    ("NaN".toList, .float Double.nan), ("Infinity".toList, .float (Double.infinity false)),
    ("-Infinity".toList, .float (Double.infinity true))]

/-- The named value at the front, if there is one. -/
def named? (cs : List Char) : Option (Value × List Char) :=
  (names.find? fun e => e.1.isPrefixOf cs).map fun e => (e.2, cs.drop e.1.length)

/-- A value without parts at the front. -/
def leafAt (fuel : Nat) (cs : List Char) : Parse Value :=
  match cs with
  | '"' :: rest =>
    match textTail fuel [] rest with
    | .ok (s, more) => .ok (.text s, more)
    | .error e => .error e
  | _ =>
    match named? cs with
    | some r => .ok r
    | none =>
      match cs with
      | '-' :: rest => numberTail true rest
      | _ => numberTail false cs

/-! ## Values with parts -/

mutual
/-- The value at the front. -/
def valueAt : Nat → List Char → Parse Value
  | 0, _ => .error .malformed
  | fuel + 1, cs =>
    match cs with
    | '[' :: rest =>
      match skipBlanks rest with
      | ']' :: more => .ok (.list [], more)
      | inner => itemsAt fuel [] inner
    | '\x7b' :: rest =>
      match skipBlanks rest with
      | '\x7d' :: more => .ok (.object [], more)
      | inner => fieldsAt fuel [] inner
    | _ => leafAt fuel cs

/-- The items of a list from the next one on; those before it are given in reverse. -/
def itemsAt : Nat → List Value → List Char → Parse Value
  | 0, _, _ => .error .malformed
  | fuel + 1, acc, cs =>
    match valueAt fuel cs with
    | .error e => .error e
    | .ok (v, rest) =>
      match skipBlanks rest with
      | ',' :: more => itemsAt fuel (v :: acc) (skipBlanks more)
      | ']' :: more => .ok (.list (v :: acc).reverse, more)
      | _ => .error .malformed

/-- The entries of an object from the next one on; those before it are given in reverse. -/
def fieldsAt : Nat → List (String × Value) → List Char → Parse Value
  | 0, _, _ => .error .malformed
  | fuel + 1, acc, cs =>
    match cs with
    | '"' :: rest =>
      match textTail fuel [] rest with
      | .error e => .error e
      | .ok (k, afterKey) =>
        match skipBlanks afterKey with
        | ':' :: more =>
          match valueAt fuel (skipBlanks more) with
          | .error e => .error e
          | .ok (v, afterValue) =>
            match skipBlanks afterValue with
            | ',' :: next => fieldsAt fuel ((k, v) :: acc) (skipBlanks next)
            | '\x7d' :: next => .ok (.object (Entries.ofPairs ((k, v) :: acc).reverse), next)
            | _ => .error .malformed
        | _ => .error .malformed
    | _ => .error .malformed
end

/-- Reads a whole text as one JSON value. -/
def read (s : String) : Except ReadFault Value :=
  let cs := s.toList
  match valueAt (2 * cs.length + 2) (skipBlanks cs) with
  | .error e => .error e
  | .ok (v, rest) => if (skipBlanks rest).isEmpty then .ok v else .error .malformed

end EventCanvas.Json
