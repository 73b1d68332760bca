/-!
# Double-precision numbers

A `Double` is the 64 bits of a number in the binary format with 52 fraction
bits.  All work on it is exact: `classify` reads the bits as a sign, a natural
number and a power of two, and `ofRatio` rounds a quotient of natural numbers to
the nearest double, a tie to the even neighbour.
-/

namespace EventCanvas

/-- A double-precision number, held as its bits. -/
structure Double where
  bits : UInt64
deriving DecidableEq, Inhabited

namespace Double

/-- What the bits of a double stand for. -/
inductive Reading where
  | nan
  | infinite (negative : Bool)
  /-- The number `± mantissa · 2 ^ exponent`. -/
  | finite (negative : Bool) (mantissa : Nat) (exponent : Int)
deriving DecidableEq

/-- Splits the bits into sign, exponent field and fraction, and says what they stand for. -/
def classify (d : Double) : Reading :=
  let n := d.bits.toNat
  let negative : Bool := Nat.pow 2 63 ≤ n
  let field : Nat := n / Nat.pow 2 52 % Nat.pow 2 11
  let fraction : Nat := n % Nat.pow 2 52
  if field = 2047 then
    if fraction = 0 then .infinite negative else .nan
  else if field = 0 then .finite negative fraction (-1074)
  else .finite negative (Nat.pow 2 52 + fraction) ((field : Int) - 1075)

/-- The double with the given sign and the remaining 63 bits. -/
def ofMagnitude (negative : Bool) (n : Nat) : Double :=
  ⟨UInt64.ofNat (if negative then Nat.pow 2 63 + n else n)⟩

/-- The magnitude bits of infinity. -/
def infiniteBits : Nat := 2047 * Nat.pow 2 52

/-- The number that is not a number. -/
def nan : Double := ofMagnitude false (infiniteBits + Nat.pow 2 51)

/-- The two infinities. -/
def infinity (negative : Bool) : Double := ofMagnitude negative infiniteBits

/-- The two zeros. -/
def zero (negative : Bool) : Double := ofMagnitude negative 0

/-- A double is finite unless its exponent field is full. -/
def isFinite (d : Double) : Bool :=
  match d.classify with
  | .finite .. => true
  | _ => false

/-- Whether the number is one of the two zeros. -/
def isZero (d : Double) : Bool :=
  match d.classify with
  | .finite _ 0 _ => true
  | _ => false

/-! ## Rounding -/

/-- `num / den` as a quotient by `2 ^ q`: the numerator and denominator to divide. -/
def scaled (num den : Nat) (q : Int) : Nat × Nat :=
  if 0 ≤ q then (num, den * Nat.pow 2 q.toNat) else (num * Nat.pow 2 (-q).toNat, den)

/-- The natural number nearest to `num / den`, a tie to the even neighbour. -/
def nearestEven (num den : Nat) : Nat :=
  let below := num / den
  let rest := num % den
  if den < 2 * rest then below + 1
  else if 2 * rest < den then below
  else if below % 2 = 0 then below else below + 1

/-- The power of two that puts `num / den` on the grid of doubles. -/
def gridExponent (num den : Nat) : Int :=
  let guess : Int := (Nat.log2 num : Int) - (Nat.log2 den : Int) - 53
  let low := if guess < -1074 then -1074 else guess
  let parts := scaled num den low
  if parts.1 / parts.2 < Nat.pow 2 53 then low else low + 1

/-- The double nearest to `± num / den`, a tie to the even one; out of range is infinite. -/
def ofRatio (negative : Bool) (num den : Nat) : Double :=
  if num = 0 then zero negative
  else
    let q := gridExponent num den
    let parts := scaled num den q
    let m := nearestEven parts.1 parts.2
    let n := if m < Nat.pow 2 52 then m else (q + 1075).toNat * Nat.pow 2 52 + (m - Nat.pow 2 52)
    if infiniteBits ≤ n then infinity negative else ofMagnitude negative n

/-- The double nearest to an integer, if it is in range. -/
def ofInt? (n : Int) : Option Double :=
  let d := ofRatio (n < 0) n.natAbs 1
  if d.isFinite then some d else none

/-- The sign of a finite double and its size as a quotient. -/
def ratio? (d : Double) : Option (Bool × Nat × Nat) :=
  match d.classify with
  | .finite negative m q =>
    if 0 ≤ q then some (negative, m * Nat.pow 2 q.toNat, 1)
    else some (negative, m, Nat.pow 2 (-q).toNat)
  | _ => none

/-- The integer that a double is, if it is one. -/
def toInt? (d : Double) : Option Int :=
  match d.ratio? with
  | some (negative, num, den) =>
    if num % den = 0 then
      let n : Int := (num / den : Nat)
      some (if negative then -n else n)
    else none
  | none => none

/-- Equality as numbers: the two zeros are equal.  A number is equal to itself, also when it is
not a number, because tables and lists compare what they hold by identity first. -/
def equal (a b : Double) : Bool := a == b || (a.isZero && b.isZero)

end Double

end EventCanvas
