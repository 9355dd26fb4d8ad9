import ThermalPress.Number.Binary64

/-!
# Decimal text of numbers

Three ways of writing a binary number in decimal: with the fewest digits that read back as the same number
(`Binary64.shortest`), with a fixed number of places (`Binary64.fixed`), and with a fixed number of significant
digits, plainly or with a power of ten (`Binary64.scientific`, `Binary64.general`).
-/

namespace ThermalPress

/-- The decimal digits of a number; zero has one. -/
def decimalDigits (n : Nat) : List Char := Nat.toDigits 10 n

/-- The decimal text of a whole number. -/
def integerText (n : Int) : List Char :=
  if n < 0 then '-' :: decimalDigits n.natAbs else decimalDigits n.natAbs

/-- A positive decimal number `0.d₁d₂… * 10 ^ point`. -/
structure Decimal where
  digits : List Char
  point : Int
  deriving DecidableEq, Repr

namespace Decimal

/-- The number without the zeros its digits end in. -/
def stripZeros (x : Decimal) : Decimal := { x with digits := (x.digits.reverse.dropWhile (· == '0')).reverse }

/-- The digits before and after the decimal point. -/
def positional (x : Decimal) : List Char × List Char :=
  if x.point ≤ 0 then (['0'], List.replicate x.point.natAbs '0' ++ x.digits)
  else
    let whole := x.digits.take x.point.natAbs
    (whole ++ List.replicate (x.point.natAbs - whole.length) '0', x.digits.drop x.point.natAbs)

/-- The power of ten of the first digit, with a sign and at least two digits. -/
private def powerText (n : Int) : List Char :=
  let digits := decimalDigits n.natAbs
  (if n < 0 then '-' else '+') :: (if digits.length < 2 then '0' :: digits else digits)

/-- The text with one digit before the point and a power of ten behind the rest. -/
def exponential (x : Decimal) : List Char :=
  let text := match x.digits with
    | [] => ['0']
    | [d] => [d]
    | d :: ds => d :: '.' :: ds
  text ++ 'e' :: powerText (x.point - 1)

end Decimal

namespace Binary64

/-- The number of digits before the decimal point of `num / den`, or minus the number of zeros behind it. -/
private def pointOf (num den : Nat) : Int :=
  if den ≤ num then ((decimalDigits (num / den)).length : Int)
  else 1 - ((decimalDigits ((den - 1) / num)).length : Int)

/-- The fraction `num / den * 10 ^ power`. -/
private def shifted (num den : Nat) (power : Int) : Nat × Nat :=
  if power < 0 then (num, den * Nat.pow 10 power.natAbs) else (num * Nat.pow 10 power.natAbs, den)

/-- The number of `count` digits nearest to `num / den`. -/
private def significant (count num den : Nat) : Decimal :=
  let point := pointOf num den
  let (n, d) := shifted num den (count - point)
  let digits := decimalDigits (roundDiv n d)
  if digits.length ≤ count then ⟨digits, point⟩ else ⟨digits.take count, point + 1⟩

/-- Among the decimal numbers of `count` digits next to a positive number, the nearest that reads back as it. -/
private def readingBack? (significand : Nat) (exponent : Int) (count : Nat) : Option Decimal :=
  let (num, den) := ratio significand exponent
  let point := pointOf num den
  let (n, d) := shifted num den (count - point)
  let below := n / d
  let nearest := roundDiv n d
  let candidates := [nearest, if nearest == below then below + 1 else below]
  (candidates.find? fun digits =>
      ofDecimal false digits (point - count) == .finite false significand exponent).map fun digits =>
    let text := decimalDigits digits
    if text.length ≤ count then ⟨text, point⟩ else ⟨text.take count, point + 1⟩

/-- The fewest digits that read back as the positive number `significand * 2 ^ exponent`; seventeen always do. -/
def shortestDigits (significand : Nat) (exponent : Int) : Decimal :=
  let found := (List.range' 1 16).findSome? (readingBack? significand exponent)
  (found.getD (let (num, den) := ratio significand exponent; significant 17 num den)).stripZeros

/-- The positions of the decimal point for which the shortest text is positional. -/
def isPositional (point : Int) : Bool := -4 < point && point ≤ 16

private def withSign (negative : Bool) (text : List Char) : List Char :=
  if negative then '-' :: text else text

/-- The shortest text: positional with at least one place behind the point, exponential for very small and very
large numbers. -/
def shortest : Binary64 → List Char
  | .notNumber => "nan".toList
  | .infinite negative => withSign negative "inf".toList
  | .finite negative 0 _ => withSign negative "0.0".toList
  | .finite negative significand exponent =>
    let decimal := shortestDigits significand exponent
    withSign negative <|
      if isPositional decimal.point then
        let (whole, places) := decimal.positional
        whole ++ '.' :: (if places.isEmpty then ['0'] else places)
      else decimal.exponential

/-- The shortest text, as a string. -/
def shortestString (x : Binary64) : String := String.ofList x.shortest

/-- The text with `places` digits behind the decimal point. -/
def fixed (places : Nat) : Binary64 → List Char
  | .notNumber => "nan".toList
  | .infinite negative => withSign negative "inf".toList
  | .finite negative significand exponent =>
    let (num, den) := ratio significand exponent
    let digits := decimalDigits (roundDiv (num * Nat.pow 10 places) den)
    let digits := List.replicate (places + 1 - digits.length) '0' ++ digits
    let whole := digits.length - places
    withSign negative <|
      digits.take whole ++ (if places == 0 then [] else '.' :: digits.drop whole)

/-- The text with one digit before the decimal point, `places` behind it, and a power of ten. -/
def scientific (places : Nat) : Binary64 → List Char
  | .notNumber => "nan".toList
  | .infinite negative => withSign negative "inf".toList
  | .finite negative 0 _ => withSign negative (Decimal.exponential ⟨List.replicate (places + 1) '0', 1⟩)
  | .finite negative significand exponent =>
    let (num, den) := ratio significand exponent
    withSign negative (significant (places + 1) num den).exponential

/-- The text with up to `count` significant digits and no zeros at its end: positional from the fourth place behind
the point up to the last significant digit, exponential elsewhere. -/
def general (count : Nat) : Binary64 → List Char
  | .notNumber => "nan".toList
  | .infinite negative => withSign negative "inf".toList
  | .finite negative 0 _ => withSign negative ['0']
  | .finite negative significand exponent =>
    let (num, den) := ratio significand exponent
    let decimal := (significant (max 1 count) num den).stripZeros
    withSign negative <|
      if -4 < decimal.point && decimal.point ≤ max 1 count then
        let (whole, places) := decimal.positional
        if places.isEmpty then whole else whole ++ '.' :: places
      else decimal.exponential

end Binary64

end ThermalPress
