/-!
# Binary floating point

Numbers in 64-bit binary floating point, held as exact values: a sign, a significand below `2 ^ 53` and a power of
two.  Every rounding is done on whole numbers (`Binary64.ofRatio`), to the nearest value and to the even
significand between two.
-/

namespace ThermalPress

/-- The quotient rounded to the nearest whole number, a half to the even neighbour. -/
def roundDiv (num den : Nat) : Nat :=
  let q := num / den
  let twice := 2 * (num % den)
  if twice < den || (twice == den && q % 2 == 0) then q else q + 1

/-- A number in 64-bit binary floating point. -/
inductive Binary64 where
  /-- The number `± significand * 2 ^ exponent`; the significand is at least `2 ^ 52` unless the exponent is the
  least one, `-1074`. -/
  | finite (negative : Bool) (significand : Nat) (exponent : Int)
  | infinite (negative : Bool)
  | notNumber
  deriving DecidableEq, Repr

namespace Binary64

def zero : Binary64 := .finite false 0 (-1074)

instance : Inhabited Binary64 := ⟨zero⟩

/-- The quotient `num / (den * 2 ^ exponent)` as a fraction of whole numbers. -/
private def scaled (num den : Nat) (exponent : Int) : Nat × Nat :=
  if exponent < 0 then (num * Nat.pow 2 exponent.natAbs, den) else (num, den * Nat.pow 2 exponent.natAbs)

/-- Every significand lies below this. -/
def significandBound : Nat := Nat.pow 2 53

/-- The number nearest to `± num / den`. -/
def ofRatio (negative : Bool) (num den : Nat) : Binary64 :=
  if num == 0 then .finite negative 0 (-1074)
  else
    let guess : Int := max (-1074) ((num.log2 : Int) - den.log2 - 53)
    let (n, d) := scaled num den guess
    let exponent := if n / d < significandBound then guess else guess + 1
    let (n, d) := scaled num den exponent
    let significand := roundDiv n d
    let (significand, exponent) :=
      if significand < significandBound then (significand, exponent) else (significand / 2, exponent + 1)
    if 971 < exponent then .infinite negative else .finite negative significand exponent

/-- The number nearest to a whole number. -/
def ofInt (n : Int) : Binary64 := ofRatio (n < 0) n.natAbs 1

/-- The number nearest to `± digits * 10 ^ exponent`.  Powers beyond the range of the format are decided by the
number of digits alone. -/
def ofDecimal (negative : Bool) (digits : Nat) (exponent : Int) : Binary64 :=
  let size := ((Nat.toDigits 10 digits).length : Int) + exponent
  if digits == 0 || size < -400 then .finite negative 0 (-1074)
  else if 400 < size then .infinite negative
  else if exponent < 0 then ofRatio negative digits (Nat.pow 10 exponent.natAbs)
  else ofRatio negative (digits * Nat.pow 10 exponent.natAbs) 1

/-- The numerator and denominator of a significand times a power of two. -/
def ratio (significand : Nat) (exponent : Int) : Nat × Nat :=
  if exponent < 0 then (significand, Nat.pow 2 exponent.natAbs) else (significand * Nat.pow 2 exponent.natAbs, 1)

/-- The sign of a number, `true` for negative ones. -/
def negative : Binary64 → Bool
  | .finite negative .. => negative
  | .infinite negative => negative
  | .notNumber => false

/-- Whether the number is greater than zero. -/
def isPositive : Binary64 → Bool
  | .finite negative significand _ => !negative && significand != 0
  | .infinite negative => !negative
  | .notNumber => false

/-- Whether the number is zero, with either sign. -/
def isZero : Binary64 → Bool
  | .finite _ 0 _ => true
  | _ => false

/-- The whole number towards zero, for a finite number. -/
def truncate? : Binary64 → Option Int
  | .finite negative significand exponent =>
    let (n, d) := ratio significand exponent
    some (if negative then -(n / d : Nat) else (n / d : Nat))
  | _ => none

/-- The whole number of that value, if there is one. -/
def toInt? : Binary64 → Option Int
  | .finite negative significand exponent =>
    let (n, d) := ratio significand exponent
    if n % d == 0 then some (if negative then -(n / d : Nat) else (n / d : Nat)) else none
  | _ => none

end Binary64

end ThermalPress
