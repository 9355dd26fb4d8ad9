import ThermalPress.Libraries.Symbol.Penalty

/-!
# Symbols

The symbol of some data at a level of error correction (`symbolOf`): the least version that holds the data, and the
first of the masks that are easiest to read.  The mask and the level are written into the finished symbol, twice,
and so is the version of a large one.
-/

namespace ThermalPress.Libraries

open Qr (ErrorLevel)

/-- Why data has no symbol. -/
inductive SymbolError where
  /-- No version holds the data. -/
  | tooLong
  /-- A block of nothing but zeros has no check bytes. -/
  | emptyBlock
  deriving DecidableEq, Repr

/-- A number with the remainder of its division by a polynomial of the given degree behind it. -/
private def withRemainder (divisor degree width n : Nat) : Nat :=
  let start := n <<< degree
  let remainder := (List.range width).reverse.foldl (fun r shift =>
    if r.testBit (shift + degree) then r ^^^ (divisor <<< shift) else r) start
  start ||| remainder

/-- The fifteen bits of a level and a mask. -/
def formatBits (level : ErrorLevel) (mask : Nat) : Nat :=
  withRemainder 0x537 10 5 (levelBits level * 8 + mask) ^^^ 0x5412

/-- The eighteen bits of a version. -/
def versionBits (version : Nat) : Nat := withRemainder 0x1F25 12 6 version

/-- Where each bit of the format stands. -/
private def formatPlaces (n : Nat) : List ((Nat × Nat) × Nat) :=
  (List.range 15).flatMap fun i =>
    let row := if i < 6 then i else if i < 8 then i + 1 else n - 15 + i
    let column := if i < 8 then n - i - 1 else if i < 9 then 15 - i else 14 - i
    [((row, 8), i), ((8, column), i)]

/-- Where each bit of the version stands. -/
private def versionPlaces (n : Nat) : List ((Nat × Nat) × Nat) :=
  (List.range 18).flatMap fun i =>
    let far := i % 3 + n - 11
    [((i / 3, far), i), ((far, i / 3), i)]

/-- The grid with the format, the module that is always dark, and the version of a large symbol. -/
def Grid.withFormat (grid : Grid) (version : Nat) (level : ErrorLevel) (mask : Nat) : Grid :=
  let drawAll (grid : Grid) (places : List ((Nat × Nat) × Nat)) (bits : Nat) : Grid :=
    places.foldl (fun grid (place, i) => grid.draw place (bits.testBit i)) grid
  let grid := (drawAll grid (formatPlaces grid.side) (formatBits level mask)).draw (grid.side - 8, 8) true
  if 7 ≤ version then drawAll grid (versionPlaces grid.side) (versionBits version) else grid

/-- The masked grid of least penalty and the number of its mask; of equal ones the first. -/
def Canvas.best (canvas : Canvas) : Grid × Nat :=
  let choices := (List.range 8).map fun mask =>
    let grid := canvas.masked mask
    (penalty grid, grid, mask)
  let best := choices.foldl (fun found choice =>
    match found with
    | some best => if choice.1 < best.1 then some choice else some best
    | none => some choice) (none : Option (Nat × Grid × Nat))
  (best.map (·.2)).getD (canvas.grid, 0)

/-- The symbol of some data. -/
def symbolOf (level : ErrorLevel) (data : Bytes) : Except SymbolError Grid := do
  let parts := segments data
  match version? level parts with
  | none => .error .tooLong
  | some version =>
    match codewords? version level parts with
    | none => .error .emptyBlock
    | some codewords =>
      let (grid, mask) := (Canvas.of version codewords).best
      return grid.withFormat version level mask

end ThermalPress.Libraries
