/-!
# The field of 256 elements

Arithmetic on bytes as polynomials over two elements, modulo `x⁸ + x⁴ + x³ + x² + 1`, and the check bytes that a
block of data bytes is followed by: the remainder of the block, as a polynomial over the field, on division by
`(x - 1)(x - 2)⋯(x - 2ᵏ⁻¹)` (`checkBytes`).
-/

namespace ThermalPress.Libraries

namespace Field

/-- Twice an element. -/
def double (a : UInt8) : UInt8 := if a < 0x80 then a <<< 1 else (a <<< 1) ^^^ 0x1D

/-- The product of `a` with the lowest `count` bits of `b`. -/
private def mulBits : (count : Nat) → UInt8 → UInt8 → UInt8
  | 0, _, _ => 0
  | count + 1, a, b => (if b &&& 1 = 1 then a else 0) ^^^ mulBits count (double a) (b >>> 1)

/-- The product of two elements. -/
def mul (a b : UInt8) : UInt8 := mulBits 8 a b

/-- The power of two with that exponent. -/
def powerOfTwo : Nat → UInt8
  | 0 => 1
  | n + 1 => double (powerOfTwo n)

end Field

/-- The product of polynomials `x + root`, without its leading one, the highest coefficient first. -/
private def productOfRoots (roots : List UInt8) : List UInt8 :=
  roots.foldl (fun product root =>
    List.zipWith (· ^^^ ·) (product ++ [0]) ((1 :: product).map (Field.mul root))) []

/-- The divisor whose roots are the first `count` powers of two, without its leading one. -/
def divisor (count : Nat) : List UInt8 := productOfRoots ((List.range count).map Field.powerOfTwo)

/-- One step of the division: the remainder so far, and the next data byte. -/
private def divideStep (divisor remainder : List UInt8) (byte : UInt8) : List UInt8 :=
  let factor := byte ^^^ remainder.headD 0
  List.zipWith (· ^^^ ·) (remainder.tail ++ [0]) (divisor.map (Field.mul factor))

/-- The bytes that let a reader correct a block of data bytes, as many as the divisor has coefficients. -/
def checkBytes (divisor data : List UInt8) : List UInt8 :=
  data.foldl (divideStep divisor) (List.replicate divisor.length 0)

end ThermalPress.Libraries
