import EventCanvas.Text.Hex
import EventCanvas.Toml.Moment

/-!
# The scalars of TOML

Quoted texts, numbers, truth values, and with them the dates and times of
`EventCanvas.Toml.Moment`: the values without parts.
-/

namespace EventCanvas.Toml

/-! ## Quoted texts -/

/-- The character of an escape by letter. -/
def letterEscape? (c : Char) : Option Char :=
  if c = '"' || c = '\\' then some c
  else if c = 'b' then some (Char.ofNat 8)
  else if c = 't' then some '\t'
  else if c = 'n' then some '\n'
  else if c = 'f' then some (Char.ofNat 12)
  else if c = 'r' then some '\r'
  else none

/-- The character of an escape by number, whose digits stand at the front. -/
def numberedEscape? (width : Nat) (cs : List Char) : Option (Char × List Char) := do
  let digits := cs.take width
  if digits.length = width then
    let n ← Text.hexRow? digits
    if n.isValidChar then some (Char.ofNat n, cs.drop width) else none
  else none

/-- The character of an escape after its backslash. -/
def escape? : List Char → Parse Char
  | 'u' :: cs => numberedEscape? 4 cs
  | 'U' :: cs => numberedEscape? 8 cs
  | c :: cs => (letterEscape? c).map fun d => (d, cs)
  | [] => none

/-- The rest of a one-line text, after its opening mark. -/
def basicTail : Nat → List Char → List Char → Parse String
  | 0, _, _ => none
  | fuel + 1, acc, cs =>
    match cs with
    | [] => none
    | c :: rest =>
      if c = '"' then some (String.ofList acc.reverse, rest)
      else if c = '\\' then
        match escape? rest with
        | some (d, more) => basicTail fuel (d :: acc) more
        | none => none
      else if isControl c then none
      else basicTail fuel (c :: acc) rest

/-- A one-line text in double marks, after the opening one. -/
def basicText (cs : List Char) : Parse String := basicTail (cs.length + 1) [] cs

/-- A one-line text in single marks, after the opening one.  There are no escapes in it. -/
def literalText (cs : List Char) : Parse String :=
  let body := cs.takeWhile (· ≠ '\'')
  match cs.dropWhile (· ≠ '\'') with
  | _ :: rest => if body.any isControl then none else some (String.ofList body, rest)
  | [] => none

/-- A line break that is skipped together with the blanks and line breaks behind it, after the
backslash that stands in front of it. -/
def foldedBreak? (cs : List Char) : Option (List Char) :=
  match skipBlanks cs with
  | '\n' :: rest => some (rest.dropWhile fun c => isLineBlank c || c = '\n')
  | [] => if cs.isEmpty then none else some []
  | _ => none

/-- Up to two further marks at the front belong to a text of several lines that ends there. -/
def closingMarks (mark : Char) : List Char → List Char × List Char
  | a :: b :: rest =>
    if a = mark && b = mark then ([mark, mark], rest)
    else if a = mark then ([mark], b :: rest)
    else ([], a :: b :: rest)
  | [a] => if a = mark then ([mark], []) else ([], [a])
  | [] => ([], [])

/-- The rest of a text of several lines, after its opening marks. -/
def linesTail (mark : Char) : Nat → List Char → List Char → Parse String
  | 0, _, _ => none
  | fuel + 1, acc, cs =>
    match cs with
    | [] => none
    | c :: rest =>
      if [mark, mark, mark].isPrefixOf cs then
        let (more, after) := closingMarks mark (cs.drop 3)
        some (String.ofList (acc.reverse ++ more), after)
      else if c = '\\' && mark = '"' then
        match foldedBreak? rest with
        | some more => linesTail mark fuel acc more
        | none =>
          match escape? rest with
          | some (d, more) => linesTail mark fuel (d :: acc) more
          | none => none
      else if isControl c && c != '\n' then none
      else linesTail mark fuel (c :: acc) rest

/-- A text of several lines, after its opening marks.  A line break right behind them is no part
of it. -/
def linesText (mark : Char) (cs : List Char) : Parse String :=
  let body := match cs with
    | '\n' :: rest => rest
    | _ => cs
  linesTail mark (body.length + 1) [] body

/-- The quoted text at the front. -/
def quotedText : List Char → Parse String
  | '"' :: '"' :: '"' :: cs => linesText '"' cs
  | '\'' :: '\'' :: '\'' :: cs => linesText '\'' cs
  | '"' :: cs => basicText cs
  | '\'' :: cs => literalText cs
  | _ => none

/-! ## Numbers -/

/-- Digits from the front on, without the single underscores between them. -/
def digitsFrom (isDigit : Char → Bool) : List Char → List Char × List Char
  | [] => ([], [])
  | c :: cs =>
    if isDigit c then
      let (ds, rest) := digitsFrom isDigit cs
      (c :: ds, rest)
    else
      match cs with
      | d :: _ =>
        if c = '_' && isDigit d then digitsFrom isDigit cs else ([], c :: cs)
      | [] => ([], c :: cs)

/-- A row of digits, of which the first stands at the front. -/
def digitRow (isDigit : Char → Bool) (cs : List Char) : Parse (List Char) :=
  match cs with
  | c :: _ => if isDigit c then some (digitsFrom isDigit cs) else none
  | [] => none

/-- The value of a row of digits in some base. -/
def rowValue (base : Nat) (ds : List Char) : Nat :=
  ds.foldl (fun n c => base * n + (Text.hexValue? c).getD 0) 0

/-- Whether a character is a digit of some base. -/
def isDigitOf (base : Nat) (c : Char) : Bool :=
  match Text.hexValue? c with
  | some n => n < base
  | none => false

/-- The integer in another base that stands at the front. -/
def basedInteger (cs : List Char) : Parse Value :=
  match cs with
  | '0' :: c :: rest =>
    let row (base : Nat) : Parse Value :=
      (digitRow (isDigitOf base) rest).map fun (ds, after) => (.int (rowValue base ds), after)
    if c = 'x' then row 16 else if c = 'o' then row 8 else if c = 'b' then row 2 else none
  | _ => none

/-- The whole part of a decimal number: zero alone, or digits that begin with another one. -/
def wholePart (cs : List Char) : Parse (List Char) :=
  match cs with
  | '0' :: rest => some (['0'], rest)
  | _ => digitRow Char.isDigit cs

/-- The fraction at the front with its point, if there is a whole one. -/
def fractionPart (cs : List Char) : List Char × List Char :=
  match cs with
  | '.' :: rest =>
    match digitRow Char.isDigit rest with
    | some (ds, after) => ('.' :: ds, after)
    | none => ([], cs)
  | _ => ([], cs)

/-- The exponent at the front with its letter, if there is a whole one. -/
def exponentPart (cs : List Char) : List Char × List Char :=
  match cs with
  | c :: rest =>
    if c = 'e' || c = 'E' then
      let (negative, body) := Double.splitSign rest
      match digitRow Char.isDigit body with
      | some (ds, after) => ((if negative then ['e', '-'] else ['e']) ++ ds, after)
      | none => ([], cs)
    else ([], cs)
  | [] => ([], cs)

/-- The value of a decimal number, by the parts that are there.  An integer has a limited number of
digits. -/
def decimalValue (negative : Bool) (whole fraction exponent : List Char) :
    Except ReadFault Value :=
  if fraction.isEmpty && exponent.isEmpty then
    if maxDigits < whole.length then .error .tooManyDigits
    else
      let n : Int := digitsValue whole
      .ok (.int (if negative then -n else n))
  else
    (required (Double.unsignedOf? negative (whole ++ fraction ++ exponent))).map .float

/-- The decimal number at the front, after its sign, if there is one. -/
def decimal? (negative : Bool) (cs : List Char) :
    Option (Except ReadFault (Value × List Char)) :=
  (wholePart cs).map fun (whole, afterWhole) =>
    let (fraction, afterFraction) := fractionPart afterWhole
    let (exponent, rest) := exponentPart afterFraction
    (decimalValue negative whole fraction exponent).map fun v => (v, rest)

/-- A number that has a name, after its sign. -/
def namedNumber (negative : Bool) : List Char → Parse Value
  | 'i' :: 'n' :: 'f' :: rest => some (.float (Double.infinity negative), rest)
  | 'n' :: 'a' :: 'n' :: rest => some (.float Double.nan, rest)
  | _ => none

/-- The number at the front. -/
def number (cs : List Char) : Except ReadFault (Value × List Char) :=
  let (negative, body) := Double.splitSign cs
  match basedInteger cs, decimal? negative body with
  | some r, _ => .ok r
  | none, some r => r
  | none, none => required (namedNumber negative body)

/-- The truth value at the front. -/
def truth : List Char → Parse Value
  | 't' :: 'r' :: 'u' :: 'e' :: rest => some (.bool true, rest)
  | 'f' :: 'a' :: 'l' :: 's' :: 'e' :: rest => some (.bool false, rest)
  | _ => none

/-- The value without parts at the front. -/
def scalar (cs : List Char) : Except ReadFault (Value × List Char) :=
  match cs with
  | '"' :: _ | '\'' :: _ => (required (quotedText cs)).map fun (s, rest) => (.text s, rest)
  | _ =>
    match (truth cs).or (moment cs) with
    | some r => .ok r
    | none => number cs

end EventCanvas.Toml
