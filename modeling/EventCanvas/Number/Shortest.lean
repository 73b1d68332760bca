import EventCanvas.Number.Double

/-!
# The shortest decimal text of a double

`Decimal.shortest` finds, for a positive number on the grid of doubles, the
decimal with the fewest digits that reads back as it, and of those the nearest.
Each double owns an interval of reals that round to it; on the grid of `k`-digit
decimals only the two neighbours of the number can be in it if any point is, so
the grids of 1, 2, … 17 digits are tried in turn, in exact arithmetic.
`Double.text` lays the digits out.
-/

namespace EventCanvas

/-- The number `digits · 10 ^ exponent`. -/
structure Decimal where
  digits : Nat
  exponent : Int
deriving DecidableEq

namespace Decimal

/-- The interval of reals that round to a double, as natural numbers over one denominator:
the number itself, the ends, and whether the ends belong to it. -/
structure Interval where
  value : Nat
  low : Nat
  high : Nat
  den : Nat
  closed : Bool

/-- The interval of `m · 2 ^ q`.  Below a power of two the neighbour is only half as far. -/
def Interval.around (m : Nat) (q : Int) : Interval :=
  let low := if m = Nat.pow 2 52 && -1074 < q then 4 * m - 1 else 4 * m - 2
  let unit := if 2 ≤ q then Nat.pow 2 (q - 2).toNat else 1
  { value := 4 * m * unit, low := low * unit, high := (4 * m + 2) * unit
    den := if 2 ≤ q then 1 else Nat.pow 2 (2 - q).toNat
    closed := m % 2 = 0 }

/-- How many decimal digits a natural number has. -/
def digitCount (n : Nat) : Nat := (Nat.toDigits 10 n).length

/-- An `e` with `value < 10 ^ e` and `10 ^ (e - 1) ≤ value`. -/
def Interval.magnitude (i : Interval) : Int :=
  if i.den ≤ i.value then digitCount (i.value / i.den) else 1 - (digitCount (i.den / i.value) : Int)

/-- `n` grid steps of `10 ^ e`, brought to the denominator of the interval: the two sides to
compare. -/
def onGrid (n : Nat) (e : Int) (den : Nat) : Nat :=
  if 0 ≤ e then n * Nat.pow 10 e.toNat * den else n * den

/-- The scale that makes up for a negative grid exponent. -/
def gridScale (e : Int) : Nat := if 0 ≤ e then 1 else Nat.pow 10 (-e).toNat

/-- The neighbour of the number on the grid of step `10 ^ e` that reads back, the nearer of two, of
two equally near the even one. -/
def Interval.hit? (i : Interval) (e : Int) : Option Nat :=
  let scale := gridScale e
  let value := i.value * scale
  let below := value / onGrid 1 e i.den
  let lowPoint := onGrid below e i.den
  let highPoint := onGrid (below + 1) e i.den
  let lowHit := if i.closed then i.low * scale ≤ lowPoint else i.low * scale < lowPoint
  let highHit := if i.closed then highPoint ≤ i.high * scale else highPoint < i.high * scale
  if lowHit && highHit then
    if value - lowPoint < highPoint - value then some below
    else if highPoint - value < value - lowPoint then some (below + 1)
    else some (if below % 2 = 0 then below else below + 1)
  else if lowHit then some below
  else if highHit then some (below + 1)
  else none

/-- The first grid with a hit, from `k` digits on. -/
def Interval.search (i : Interval) (e : Int) : Nat → Nat → Decimal
  | 0, k => ⟨(i.hit? (e - k)).getD 0, e - k⟩
  | more + 1, k =>
    match i.hit? (e - k) with
    | some n => ⟨n, e - k⟩
    | none => i.search e more (k + 1)

/-- The decimal of fewest digits that reads back as `m · 2 ^ q`. -/
def shortest (m : Nat) (q : Int) : Decimal :=
  let i := Interval.around m q
  i.search i.magnitude 16 1

end Decimal

/-- How the digits of a number are laid out. -/
structure NumberLayout where
  /-- The least decimal exponent that is written positionally. -/
  lowest : Int
  /-- The first decimal exponent above the positional ones. -/
  highest : Int
  /-- The least number of exponent digits. -/
  exponentDigits : Nat

namespace NumberLayout

/-- Numbers from one ten-thousandth up to (not including) ten to the sixteenth are positional, with
a digit after the point; others have an exponent of a sign and at least two digits. -/
def standard : NumberLayout := ⟨-4, 16, 2⟩

/-- An exponent with its sign, filled up with zeros. -/
def exponentText (l : NumberLayout) (e : Int) : List Char :=
  let ds := Nat.toDigits 10 e.natAbs
  (if e < 0 then '-' else '+') :: (List.replicate (l.exponentDigits - ds.length) '0' ++ ds)

/-- Lays out the digits `ds` (no zero at the end) whose point stands after `point` of them. -/
def text (l : NumberLayout) (ds : List Char) (point : Int) : List Char :=
  let e := point - 1
  if l.lowest ≤ e && e < l.highest then
    if point ≤ 0 then '0' :: '.' :: (List.replicate (-point).toNat '0' ++ ds)
    else if ds.length ≤ point.toNat then
      ds ++ List.replicate (point.toNat - ds.length) '0' ++ ['.', '0']
    else ds.take point.toNat ++ '.' :: ds.drop point.toNat
  else
    match ds with
    | [] => []
    | d :: rest =>
      d :: ((if rest.isEmpty then [] else '.' :: rest) ++ 'e' :: l.exponentText e)

end NumberLayout

namespace Double

/-- The digits of a positive number without zeros at the end, and the place of its point. -/
def decimalDigits (m : Nat) (q : Int) : List Char × Int :=
  let d := Decimal.shortest m q
  let all := Nat.toDigits 10 d.digits
  let kept := (all.reverse.dropWhile (· == '0')).reverse
  (kept, all.length + d.exponent)

/-- The shortest text that reads back as the same number. -/
def text (d : Double) : String :=
  match d.classify with
  | .nan => "nan"
  | .infinite negative => if negative then "-inf" else "inf"
  | .finite negative m q =>
    let body :=
      if m = 0 then ['0', '.', '0']
      else
        let (ds, point) := decimalDigits m q
        NumberLayout.standard.text ds point
    String.ofList (if negative then '-' :: body else body)

end Double

end EventCanvas
