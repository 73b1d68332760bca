import EventCanvas.Number.Reader

/-!
# Points in time

An `Instant` is a civil date and time of day, with microseconds and, where it is
known, the zone it is told in.  `ofMillis` gives the instant of a clock reading;
`ofText?` reads the written forms, `ofUnix?` and `ofDouble?` the numeric ones;
`text` and `stamp` write the two forms that are used: with a numeric offset, and
with `Z` for universal time.
-/

namespace EventCanvas

/-- The zone in which a time of day is told. -/
inductive Zone where
  /-- No zone is known. -/
  | unknown
  /-- Universal time, as clocks tell it. -/
  | universal
  /-- Written minutes east of universal time, which may be zero. -/
  | offset (minutes : Int)
deriving DecidableEq, Inhabited

/-- The minutes east of universal time, where they are known. -/
def Zone.minutes? : Zone → Option Int
  | unknown => none
  | universal => some 0
  | offset m => some m

/-- A civil date and time.  Dates in the year 0 can be written but are not accepted in payloads. -/
structure Instant where
  year : Nat
  month : Nat
  day : Nat
  hour : Nat
  minute : Nat
  second : Nat
  micro : Nat
  zone : Zone
deriving DecidableEq, Inhabited

namespace Instant

/-! ## Calendar -/

/-- Leap years of the Gregorian calendar. -/
def isLeap (year : Nat) : Bool := (year % 4 = 0 && year % 100 ≠ 0) || year % 400 = 0

/-- The length of a month; zero for a number that is no month. -/
def daysIn (year month : Nat) : Nat :=
  match month with
  | 2 => if isLeap year then 29 else 28
  | 4 | 6 | 9 | 11 => 30
  | 1 | 3 | 5 | 7 | 8 | 10 | 12 => 31
  | _ => 0

/-- The civil date of a day counted from 1970-01-01, as year, month and day.  The count runs in
eras of 400 years whose years begin in March, so that the leap day comes last. -/
def civilOfDay (days : Int) : Int × Nat × Nat :=
  let z := days + 719468
  let era := z.fdiv 146097
  let dayOfEra := (z - era * 146097).toNat
  let yearOfEra := (dayOfEra - dayOfEra / 1460 + dayOfEra / 36524 - dayOfEra / 146096) / 365
  let dayOfYear := dayOfEra - (365 * yearOfEra + yearOfEra / 4 - yearOfEra / 100)
  let shifted := (5 * dayOfYear + 2) / 153
  let day := dayOfYear - (153 * shifted + 2) / 5 + 1
  let month := if shifted < 10 then shifted + 3 else shifted - 9
  let year : Int := yearOfEra + era * 400 + (if month ≤ 2 then 1 else 0)
  (year, month, day)

/-- The instant of a number of microseconds since 1970, told in a zone of no offset; none outside
the years 0 to 9999. -/
def ofMicros? (zone : Zone) (micros : Int) : Option Instant :=
  let perDay : Int := 86400 * 1000000
  let days := micros.fdiv perDay
  let rest := (micros - days * perDay).toNat
  let (year, month, day) := civilOfDay days
  if 0 ≤ year && year ≤ 9999 then
    some { year := year.toNat, month, day, hour := rest / 3600000000
           minute := rest / 60000000 % 60, second := rest / 1000000 % 60
           micro := rest % 1000000, zone }
  else none

/-- The instant of a clock reading in milliseconds since 1970. -/
def ofMillis (ms : Int) : Instant := (ofMicros? .universal (ms * 1000)).getD default

/-- The day of a civil date, counted from 1970-01-01: the inverse of `civilOfDay`. -/
def dayOfCivil (year : Int) (month day : Nat) : Int :=
  let y := if month ≤ 2 then year - 1 else year
  let era := y.fdiv 400
  let yearOfEra := (y - era * 400).toNat
  let shifted := if 2 < month then month - 3 else month + 9
  let dayOfYear := (153 * shifted + 2) / 5 + day - 1
  era * 146097 + (yearOfEra * 365 + yearOfEra / 4 - yearOfEra / 100 + dayOfYear : Nat) - 719468

/-- The microseconds since 1970, on the clock of the place. -/
def localMicros (t : Instant) : Int :=
  dayOfCivil t.year t.month t.day * 86400000000 +
    ((t.hour * 60 + t.minute) * 60 + t.second : Nat) * 1000000 + t.micro

/-- Equality as points in time: zones may differ, but a time without a zone differs from one with
a zone. -/
def same (a b : Instant) : Bool :=
  match a.zone.minutes?, b.zone.minutes? with
  | some m, some n => a.localMicros - m * 60000000 == b.localMicros - n * 60000000
  | none, none => a.localMicros == b.localMicros
  | _, _ => false

/-! ## Writing -/

/-- A number in at least `width` digits. -/
def padded (width n : Nat) : String :=
  let ds := Nat.toDigits 10 n
  String.ofList (List.replicate (width - ds.length) '0' ++ ds)

/-- An offset as sign, hours and minutes. -/
def offsetText (minutes : Int) : String :=
  (if minutes < 0 then "-" else "+") ++ padded 2 (minutes.natAbs / 60) ++ ":" ++
    padded 2 (minutes.natAbs % 60)

/-- The date. -/
def dateText (t : Instant) : String :=
  padded 4 t.year ++ "-" ++ padded 2 t.month ++ "-" ++ padded 2 t.day

/-- The time of day, with the fraction of a second if it is not zero. -/
def clockText (t : Instant) : String :=
  padded 2 t.hour ++ ":" ++ padded 2 t.minute ++ ":" ++ padded 2 t.second ++
    (if t.micro = 0 then "" else "." ++ padded 6 t.micro)

/-- Date and time of day, without the zone. -/
def localText (t : Instant) : String := t.dateText ++ "T" ++ t.clockText

/-- The text with a numeric offset. -/
def text (t : Instant) : String :=
  t.localText ++ (t.zone.minutes?.map offsetText).getD ""

/-- The text in stored data, where universal time is `Z`. -/
def stamp (t : Instant) : String :=
  t.localText ++
    match t.zone.minutes? with
    | none => ""
    | some m => if m = 0 then "Z" else offsetText m

/-! ## Reading -/

/-- Takes a number of exactly `count` digits off the front. -/
def takeDigits? (count : Nat) (cs : List Char) : Option (Nat × List Char) :=
  let ds := cs.take count
  if ds.length = count && ds.all Char.isDigit then
    some (digitsValue ds, cs.drop count)
  else none

/-- Takes one given character off the front. -/
def expect? (c : Char) : List Char → Option (List Char)
  | [] => none
  | d :: cs => if d = c then some cs else none

/-- A date, `YYYY-MM-DD`, at the front of a text. -/
def date? (cs : List Char) : Option ((Nat × Nat × Nat) × List Char) := do
  let (year, cs) ← takeDigits? 4 cs
  let cs ← expect? '-' cs
  let (month, cs) ← takeDigits? 2 cs
  let cs ← expect? '-' cs
  let (day, cs) ← takeDigits? 2 cs
  if 1 ≤ day && day ≤ daysIn year month then some ((year, month, day), cs) else none

/-- The microseconds of a fraction: six digits, further ones are dropped. -/
def fractionMicros (ds : List Char) : Nat :=
  let six := (ds ++ List.replicate (6 - ds.length) '0').take 6
  digitsValue six

/-- Seconds with an optional fraction, if there are any. -/
def seconds? : List Char → Option ((Nat × Nat) × List Char)
  | ':' :: cs => do
    let (second, cs) ← takeDigits? 2 cs
    match cs with
    | '.' :: r | ',' :: r =>
      let ds := r.takeWhile Char.isDigit
      if ds.isEmpty then none
      else some ((second, fractionMicros ds), r.dropWhile Char.isDigit)
    | _ => some ((second, 0), cs)
  | cs => some ((0, 0), cs)

/-- Whether the sign of an offset makes it negative, if it is a sign: a hyphen or a minus. -/
def offsetSign? (c : Char) : Option Bool :=
  if c = '+' then some false
  else if c = '-' || c = '\u2212' then some true
  else none

/-- A zone that fills the rest of a text: nothing, `Z`, or a sign with hours and minutes. -/
def zone? : List Char → Option Zone
  | [] => some .unknown
  | c :: cs =>
    if c = 'Z' || c = 'z' then if cs.isEmpty then some (.offset 0) else none
    else do
      let negative ← offsetSign? c
      let (hours, cs) ← takeDigits? 2 cs
      let cs := match cs with
        | ':' :: r => r
        | r => r
      let (minutes, cs) ← takeDigits? 2 cs
      if cs.isEmpty && hours ≤ 23 && minutes ≤ 59 then
        let n : Int := 60 * hours + minutes
        some (.offset (if negative then -n else n))
      else none

/-- Reads a date, alone or with a time of day and an offset. -/
def ofCivil? (cs : List Char) : Option Instant := do
  let ((year, month, day), cs) ← date? cs
  match cs with
  | [] => some ⟨year, month, day, 0, 0, 0, 0, .unknown⟩
  | c :: cs =>
    if c = 'T' || c = 't' || c = ' ' || c = '_' then
      let (hour, cs) ← takeDigits? 2 cs
      let cs ← expect? ':' cs
      let (minute, cs) ← takeDigits? 2 cs
      let ((second, micro), cs) ← seconds? cs
      let zone ← zone? cs
      if hour ≤ 23 && minute ≤ 59 && second ≤ 59 then
        some ⟨year, month, day, hour, minute, second, micro, zone⟩
      else none
    else none

/-- The largest number of seconds: numbers beyond it, of either sign, count milliseconds. -/
def lastSecond : Nat := 20000000000

/-- The instant of a number of seconds, or of milliseconds, since 1970 and of microseconds after
them. -/
def ofUnix? (n : Int) (micros : Nat) : Option Instant :=
  ofMicros? (.offset 0)
    ((if n.natAbs ≤ lastSecond then n * 1000000 else n * 1000) + micros)

/-- The instant of a number of seconds, or of milliseconds, since 1970 that may have a fraction.
The fraction is taken from the second below and rounded to microseconds; each step of the
computation is rounded to a double. -/
def ofDouble? (d : Double) : Option Instant := do
  let (negative, num, den) ← d.ratio?
  let (negative, num, den) ←
    if lastSecond * den < num then (Double.ofRatio negative num (1000 * den)).ratio?
    else some (negative, num, den)
  let n : Int := if negative then -num else num
  let second := n.fdiv den
  let (_, num, den) ← (Double.ofRatio false (n - second * den).toNat den).ratio?
  let (_, num, den) ← (Double.ofRatio false (1000000 * num) den).ratio?
  ofUnix? second ((2 * num + den) / (2 * den))

/-- An integer in decimal digits with an optional sign. -/
def integerOf? (cs : List Char) : Option Int :=
  let (negative, ds) := Double.splitSign cs
  if ds.isEmpty || !ds.all Char.isDigit then none
  else
    let n : Int := digitsValue ds
    some (if negative then -n else n)

/-- The instant of a written number of seconds: an integer, or a number with a decimal point. -/
def ofNumeral? (cs : List Char) : Option Instant :=
  match integerOf? cs with
  | some n => ofUnix? n 0
  | none => if cs.contains '.' then (Double.ofChars? cs).bind ofDouble? else none

/-- Reads a date, alone or with a time of day and an offset, or a number of seconds since 1970. -/
def ofText? (s : String) : Option Instant :=
  (ofCivil? s.toList).or (ofNumeral? s.toList)

end Instant

end EventCanvas
