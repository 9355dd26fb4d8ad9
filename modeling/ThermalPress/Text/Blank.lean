/-!
# Blank characters

Which characters count as white space, and the questions asked of it: whether a text is blank (`isBlankText`), and
what is left of it without the blanks at its ends (`trim`), or without those that may surround a number
(`trimNumber`).
-/

namespace ThermalPress

/-- White space: the separators of Unicode together with the ASCII control characters that part words, lines
and fields. -/
def isBlank (c : Char) : Bool :=
  let n := c.toNat
  (0x09 ≤ n && n ≤ 0x0D) || (0x1C ≤ n && n ≤ 0x20) || n == 0x85 || n == 0xA0 || n == 0x1680 ||
    (0x2000 ≤ n && n ≤ 0x200A) || n == 0x2028 || n == 0x2029 || n == 0x202F || n == 0x205F || n == 0x3000

/-- A text of blanks only; the empty text is blank. -/
def isBlankText (s : List Char) : Bool := s.all isBlank

/-- The text without the blanks it starts with. -/
def trimLeft (s : List Char) : List Char := s.dropWhile isBlank

/-- The text without the blanks it ends with. -/
def trimRight (s : List Char) : List Char := (s.reverse.dropWhile isBlank).reverse

/-- The text without the blanks at its ends. -/
def trim (s : List Char) : List Char := trimRight (trimLeft s)

/-- White space that may surround a number; the information separators are none. -/
def isNumberSpace (c : Char) : Bool := isBlank c && !(0x1C ≤ c.toNat && c.toNat ≤ 0x1F)

/-- The text without the white space that may surround a number. -/
def trimNumber (s : List Char) : List Char := ((s.dropWhile isNumberSpace).reverse.dropWhile isNumberSpace).reverse

end ThermalPress
