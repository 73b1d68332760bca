import EventCanvas.Instant

/-!
# Clocks

A clock is a sequence of readings, in milliseconds since 1970, of which some
have been taken.  Nothing is assumed about the readings: they may stand still
or go backwards.
-/

namespace EventCanvas

/-- A sequence of readings and how many of them were taken. -/
structure Clock where
  readings : Nat → Int
  taken : Nat

namespace Clock

/-- The clock that starts at a reading and moves by a step each time it is read. -/
def ticking (start step : Int) : Clock := ⟨fun n => start + step * n, 0⟩

/-- The next reading. -/
def millis (c : Clock) : Int := c.readings c.taken

/-- The next reading as an instant. -/
def now (c : Clock) : Instant := Instant.ofMillis c.millis

/-- The clock after one more reading was taken. -/
def next (c : Clock) : Clock := { c with taken := c.taken + 1 }

end Clock

end EventCanvas
