import ThermalPress.Text.Utf8

/-!
# Raster commands

The command that prints rows of dots: `GS v 0` and a mode, the width of a row in bytes and the number of rows, each in
two bytes with the low one first, and then the dots.  A byte holds eight dots of a row, and the last one of a row is
filled with light dots (`packDots`).
-/

namespace ThermalPress

/-- A row of dots as bytes. -/
def packDots (dots : List Bool) : Bytes :=
  match dots with
  | [] => []
  | d :: rest =>
    let byte := ((d :: rest).take 8 ++ List.replicate (8 - (rest.length + 1)) false).foldl
      (fun n dot => 2 * n + dot.toNat) 0
    UInt8.ofNat byte :: packDots (rest.drop 7)
termination_by dots.length
decreasing_by simp only [List.length_drop, List.length_cons]; omega

/-- A command that prints rows of dots: the bytes of a row, the number of rows, and the dots. -/
structure RasterCommand where
  width : Nat
  height : Nat
  dots : Bytes
  deriving DecidableEq, Repr

namespace RasterCommand

/-- A number in two bytes, the low one first. -/
def twoBytes (n : Nat) : Bytes := [UInt8.ofNat (n % 256), UInt8.ofNat (n / 256)]

/-- How the command is written. -/
def bytes (c : RasterCommand) : Bytes := [0x1D, 0x76, 0x30, 0x00] ++ twoBytes c.width ++ twoBytes c.height ++ c.dots

/-- The command that prints some rows of a picture that is `width` dots wide. -/
def ofRows (width : Nat) (rows : List (List Bool)) : RasterCommand :=
  ⟨(width + 7) / 8, rows.length, rows.flatMap packDots⟩

end RasterCommand

end ThermalPress
