import EventCanvas.Number.Reader

/-!
# Reading from the front of a text

What the readers of TOML share.  Each of them takes what it reads off the front
of a text and gives the rest, which is shorter than what it was given.
-/

namespace EventCanvas.Toml

/-- The outcome of reading from the front of a text: a result and the rest. -/
abbrev Parse (α : Type) := Option (α × List Char)

/-- What was read, or that the text is malformed. -/
def required {α : Type} : Option α → Except ReadFault α
  | some a => .ok a
  | none => .error .malformed

/-- A blank inside a line. -/
def isLineBlank (c : Char) : Bool := c = ' ' || c = '\t'

/-- A text without the blanks at its front. -/
def skipBlanks (cs : List Char) : List Char := cs.dropWhile isLineBlank

/-- The control characters, of which only the tab may stand in a line. -/
def isControl (c : Char) : Bool := (c.toNat < 32 && c != '\t') || c.toNat == 127

end EventCanvas.Toml
