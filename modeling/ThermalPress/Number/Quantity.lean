import ThermalPress.Number.Decimal

/-!
# Quantities

A number as it was given: whole or binary.  Both kinds are measured alike, but written differently.
-/

namespace ThermalPress

/-- A whole or binary number. -/
inductive Quantity where
  | whole (n : Int)
  | real (x : Binary64)
  deriving DecidableEq, Repr

namespace Quantity

/-- The nearest binary number. -/
def toBinary64 : Quantity → Binary64
  | .whole n => Binary64.ofInt n
  | .real x => x

/-- The shortest text that gives the number back. -/
def text : Quantity → List Char
  | .whole n => integerText n
  | .real x => x.shortest

/-- The text with one digit behind the decimal point. -/
def oneDecimal (q : Quantity) : String := String.ofList (q.toBinary64.fixed 1)

/-- The text with up to six significant digits. -/
def sixDigits (q : Quantity) : String := String.ofList (q.toBinary64.general 6)

end Quantity

end ThermalPress
