import ThermalPress.Libraries.Symbol.Codeword

/-!
# The grid of a symbol

Every module of a symbol has a role (`Role.of`): it belongs to a finder, alignment or timing pattern, is reserved for
the format of the symbol, or holds data.  The bits of the codewords run through the data modules in columns of two,
upwards and downwards in turn (`dataPath`), and one of eight masks is laid over them (`Canvas.masked`).
-/

namespace ThermalPress.Libraries

/-- A square of modules, dark or light, row by row. -/
structure Grid where
  side : Nat
  cells : Array Bool
  deriving DecidableEq, Repr

namespace Grid

/-- The grid whose modules a function names. -/
def ofFn (side : Nat) (dark : Nat → Nat → Bool) : Grid :=
  ⟨side, (Array.range (side * side)).map fun i => dark (i / side) (i % side)⟩

/-- Whether a module is dark. -/
def dark (grid : Grid) (row column : Nat) : Bool := grid.cells.getD (row * grid.side + column) false

/-- The grid with one module drawn. -/
def draw (grid : Grid) (place : Nat × Nat) (dark : Bool) : Grid :=
  { grid with cells := grid.cells.setIfInBounds (place.1 * grid.side + place.2) dark }

@[simp] theorem side_draw (grid : Grid) (place : Nat × Nat) (dark : Bool) : (grid.draw place dark).side = grid.side :=
  rfl

/-- The rows of the grid. -/
def rows (grid : Grid) : List (List Bool) :=
  (List.range grid.side).map fun row => (List.range grid.side).map (grid.dark row)

/-- The columns of the grid. -/
def columns (grid : Grid) : List (List Bool) :=
  (List.range grid.side).map fun column => (List.range grid.side).map fun row => grid.dark row column

end Grid

/-- What a module is for. -/
inductive Role where
  /-- A module of a pattern that is the same in every symbol of a version. -/
  | pattern (dark : Bool)
  /-- A module of the format or the version of the symbol. -/
  | format
  | data
  deriving DecidableEq, Repr

/-- The number of rings between a module and a centre. -/
private def rings (center place : Nat × Nat) : Nat :=
  let apart (a b : Nat) := max a b - min a b
  max (apart center.1 place.1) (apart center.2 place.2)

/-- A module of a finder, or of the light ring around it. -/
private def finderModule? (n : Nat) (place : Nat × Nat) : Option Bool :=
  [(3, 3), (3, n - 4), (n - 4, 3)].findSome? fun center =>
    let r := rings center place
    if r ≤ 4 then some (r ≤ 1 || r == 3) else none

/-- The centres of the alignment patterns; none lies where a finder is. -/
private def alignmentPlaces (version : Nat) : List (Nat × Nat) :=
  let centers := alignmentCenters version
  let places := centers.flatMap fun row => centers.map fun column => (row, column)
  places.filter fun place => (finderModule? (side version) place).isNone

/-- A module of an alignment pattern. -/
private def alignmentModule? (places : List (Nat × Nat)) (place : Nat × Nat) : Option Bool :=
  places.findSome? fun center =>
    let r := rings center place
    if r ≤ 2 then some (r != 1) else none

/-- A module of the lines between the finders, dark and light in turn. -/
private def timingModule? (place : Nat × Nat) : Option Bool :=
  if place.1 = 6 then some (place.2 % 2 == 0) else if place.2 = 6 then some (place.1 % 2 == 0) else none

/-- A module of the format, next to the finders, or of the version, in two blocks of larger symbols. -/
private def isFormatPlace (version : Nat) (place : Nat × Nat) : Bool :=
  let n := side version
  let beside (a b : Nat) := a == 8 && (b ≤ 8 || n - 8 ≤ b)
  let versionBlock (a b : Nat) := 7 ≤ version && a < 6 && n - 11 ≤ b && b < n - 8
  beside place.1 place.2 || beside place.2 place.1 || versionBlock place.1 place.2 || versionBlock place.2 place.1

/-- What a module is for, given the centres of the alignment patterns. -/
private def Role.at (version : Nat) (centers : List (Nat × Nat)) (place : Nat × Nat) : Role :=
  match (finderModule? (side version) place).or <| (alignmentModule? centers place).or (timingModule? place) with
  | some dark => .pattern dark
  | none => if isFormatPlace version place then .format else .data

/-- What the modules of a version are for, row by row. -/
def Role.of (version : Nat) : Array Role :=
  let n := side version
  let centers := alignmentPlaces version
  (Array.range (n * n)).map fun i => Role.at version centers (i / n, i % n)

/-- The modules in the order in which bits are drawn. -/
def dataPath (n : Nat) : List (Nat × Nat) :=
  (List.range ((n - 1) / 2)).flatMap fun turn =>
    let right := n - 1 - 2 * turn
    let right := if right ≤ 6 then right - 1 else right
    let rows := if turn % 2 = 0 then (List.range n).reverse else List.range n
    rows.flatMap fun row => [(row, right), (row, right - 1)]

/-- A grid with its data, not yet masked, and which of its modules hold data. -/
structure Canvas where
  grid : Grid
  free : Array Bool

/-- Draws bits at places, as long as there are bits; light modules follow. -/
private def drawBits (grid : Grid) : List (Nat × Nat) → Bits → Grid
  | place :: places, bit :: bits => drawBits (grid.draw place bit) places bits
  | _, _ => grid

private theorem side_drawBits (grid : Grid) (places : List (Nat × Nat)) (bits : Bits) :
    (drawBits grid places bits).side = grid.side := by
  fun_induction drawBits grid places bits with
  | case1 grid place places bit bits ih => rw [ih, Grid.side_draw]
  | case2 => rfl

/-- The patterns of a version with the bits of codewords. -/
def Canvas.of (version : Nat) (codewords : Bytes) : Canvas :=
  let n := side version
  let roles := Role.of version
  let free := roles.map (· == .data)
  let blank : Grid := ⟨n, roles.map fun
    | .pattern dark => dark
    | _ => false⟩
  let path := (dataPath n).filter fun place => free.getD (place.1 * n + place.2) false
  ⟨drawBits blank path (codewords.flatMap fun b => bitsOf 8 b.toNat), free⟩

@[simp] theorem Canvas.side_of (version : Nat) (codewords : Bytes) :
    (Canvas.of version codewords).grid.side = side version :=
  side_drawBits _ _ _

/-- Whether a mask changes the module of a row and column. -/
def maskAt (mask i j : Nat) : Bool :=
  match mask with
  | 0 => (i + j) % 2 == 0
  | 1 => i % 2 == 0
  | 2 => j % 3 == 0
  | 3 => (i + j) % 3 == 0
  | 4 => (i / 2 + j / 3) % 2 == 0
  | 5 => i * j % 2 + i * j % 3 == 0
  | 6 => (i * j % 2 + i * j % 3) % 2 == 0
  | _ => (i * j % 3 + (i + j) % 2) % 2 == 0

/-- The grid with a mask laid over its data. -/
def Canvas.masked (canvas : Canvas) (mask : Nat) : Grid :=
  Grid.ofFn canvas.grid.side fun row column =>
    canvas.grid.dark row column !=
      (canvas.free.getD (row * canvas.grid.side + column) false && maskAt mask row column)

end ThermalPress.Libraries
