/-!
# Blank characters

Two families of blank characters.  `isSpace` is the set of characters with the
white-space property; `isBlank` adds the four information separators
U+001C–U+001F, which separate words without having that property.  Names are
trimmed of blanks, written numbers of spaces.
-/

namespace EventCanvas.Text

/-- The characters with the white-space property. -/
def isSpace (c : Char) : Bool :=
  let n := c.toNat
  (9 ≤ n && n ≤ 13) || n == 32 || n == 0x85 || n == 0xA0 || n == 0x1680 ||
    (0x2000 ≤ n && n ≤ 0x200A) || n == 0x2028 || n == 0x2029 || n == 0x202F ||
    n == 0x205F || n == 0x3000

/-- The spaces and the four information separators. -/
def isBlank (c : Char) : Bool :=
  isSpace c || (0x1C ≤ c.toNat && c.toNat ≤ 0x1F)

/-- What is left of a text when the characters of a class are taken off both ends. -/
def trimBoth (p : Char → Bool) (cs : List Char) : List Char :=
  ((cs.dropWhile p).reverse.dropWhile p).reverse

/-- A name without the blanks around it. -/
def trim (s : String) : String := String.ofList (trimBoth isBlank s.toList)

end EventCanvas.Text
