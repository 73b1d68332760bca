import EventCanvas.Instant
import EventCanvas.Toml.Parse
import EventCanvas.Value

/-!
# Dates and times in TOML

A date with a time of day is an instant.  A date alone and a time of day alone
are no points in time: each is kept as its text.
-/

namespace EventCanvas.Toml

/-- The fraction of a second at the front with its point, in microseconds; zero if there is
none. -/
def fractionOfSecond (cs : List Char) : Nat × List Char :=
  match cs with
  | '.' :: rest =>
    let ds := rest.takeWhile Char.isDigit
    if ds.isEmpty then (0, cs) else (Instant.fractionMicros ds, rest.dropWhile Char.isDigit)
  | _ => (0, cs)

/-- The time of day at the front, put into an instant. -/
def timeOfDay (t : Instant) (cs : List Char) : Option (Instant × List Char) := do
  let (hour, cs) ← Instant.takeDigits? 2 cs
  let (minute, cs) ← Instant.takeDigits? 2 (← Instant.expect? ':' cs)
  let (second, cs) ← Instant.takeDigits? 2 (← Instant.expect? ':' cs)
  let (micro, cs) := fractionOfSecond cs
  if hour ≤ 23 && minute ≤ 59 && second ≤ 59 then
    return ({ t with hour, minute, second, micro }, cs)
  else none

/-- The offset at the front, in minutes, after its sign. -/
def offset (cs : List Char) : Option (Nat × List Char) := do
  let (hours, cs) ← Instant.takeDigits? 2 cs
  let (minutes, cs) ← Instant.takeDigits? 2 (← Instant.expect? ':' cs)
  if hours ≤ 23 && minutes ≤ 59 then return (60 * hours + minutes, cs) else none

/-- The zone at the front; unknown if there is none. -/
def zone (cs : List Char) : Zone × List Char :=
  match cs with
  | [] => (.unknown, [])
  | c :: rest =>
    if c = 'Z' || c = 'z' then (.universal, rest)
    else
      match offset rest with
      | some (minutes, after) =>
        if c = '+' then (.offset minutes, after)
        else if c = '-' then (.offset (-minutes), after)
        else (.unknown, cs)
      | none => (.unknown, cs)

/-- What follows a date: a time of day, perhaps with a zone, behind a `T` or a blank. -/
def timeAfterDate (t : Instant) (cs : List Char) : Parse Instant :=
  match cs with
  | 'T' :: rest | 't' :: rest | ' ' :: rest =>
    (timeOfDay t rest).map fun (t, rest) =>
      let (zone, rest) := zone rest
      ({ t with zone }, rest)
  | _ => none

/-- The date or time at the front.  There is no year 0. -/
def moment (cs : List Char) : Parse Value :=
  match Instant.date? cs with
  | some ((year, month, day), rest) =>
    let date : Instant := ⟨year, month, day, 0, 0, 0, 0, .unknown⟩
    if year = 0 then none
    else
      match timeAfterDate date rest with
      | some (t, rest) => some (.instant t, rest)
      | none => some (.text date.dateText, rest)
  | none => (timeOfDay default cs).map fun (t, rest) => (.text t.clockText, rest)

end EventCanvas.Toml
