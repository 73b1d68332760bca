import EventCanvas.Text.Hex
import EventCanvas.Text.Printable

/-!
# Quoted text

The quoted form of a text, used wherever a text stands inside another value's
text or is named in a message.  The mark is an apostrophe unless the text holds
an apostrophe and no double quote.  The mark and the backslash are escaped, the
line break, tabulator and carriage return have short escapes, and a character
that is not printable is written by its number in the shortest of three widths.
-/

namespace EventCanvas.Text

/-- The mark around a quoted text. -/
def quoteMark (cs : List Char) : Char :=
  if cs.contains '\x27' && !cs.contains '"' then '"' else '\x27'

/-- How one character is written between two marks. -/
def quoteChar (mark c : Char) : List Char :=
  if c == mark || c == '\\' then ['\\', c]
  else if c == '\n' then ['\\', 'n']
  else if c == '\t' then ['\\', 't']
  else if c == '\r' then ['\\', 'r']
  else if isPrintable c then [c]
  else if c.toNat ≤ 0xFF then '\\' :: 'x' :: hexDigits 2 c.toNat
  else if c.toNat ≤ 0xFFFF then '\\' :: 'u' :: hexDigits 4 c.toNat
  else '\\' :: 'U' :: hexDigits 8 c.toNat

/-- The quoted form of a text. -/
def quoted (s : String) : String :=
  let cs := s.toList
  let mark := quoteMark cs
  String.ofList (mark :: (cs.flatMap (quoteChar mark) ++ [mark]))

end EventCanvas.Text
