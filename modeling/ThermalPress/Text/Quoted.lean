import ThermalPress.Text.Printable

/-!
# Quoted text

How a text is shown inside a message.  It stands between single quotes, or between double quotes when it holds a
single quote and no double one; the backslash, the quote in use and every character that does not print are
escaped.
-/

namespace ThermalPress

/-- The lower-case hexadecimal digits of `n`, with zeros in front up to `width` digits. -/
def hexDigits (width n : Nat) : List Char :=
  let digits := Nat.toDigits 16 n
  List.replicate (width - digits.length) '0' ++ digits

namespace Quoted

/-- The quote that a text stands between. -/
def mark (s : List Char) : Char := if s.contains '\'' && !s.contains '"' then '"' else '\''

/-- One character of a text quoted with `quote`. -/
def escape (quote c : Char) : List Char :=
  if c == quote || c == '\\' then ['\\', c]
  else if c == '\n' then ['\\', 'n']
  else if c == '\r' then ['\\', 'r']
  else if c == '\t' then ['\\', 't']
  else if isPrintable c then [c]
  else if c.toNat < 0x100 then '\\' :: 'x' :: hexDigits 2 c.toNat
  else if c.toNat < 0x10000 then '\\' :: 'u' :: hexDigits 4 c.toNat
  else '\\' :: 'U' :: hexDigits 8 c.toNat

end Quoted

/-- The text between quotes. -/
def quoted (s : List Char) : List Char :=
  let quote := Quoted.mark s
  quote :: (s.flatMap (Quoted.escape quote) ++ [quote])

/-- The text between quotes, as a string. -/
def quotedString (s : String) : String := String.ofList (quoted s.toList)

end ThermalPress
