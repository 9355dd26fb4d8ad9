import ThermalPress.Libraries.Symbol.Grid

/-!
# Penalties

How hard a masked grid is to read (`penalty`): long runs of one colour, squares of one colour, lines that look like
finders, and an uneven share of dark modules.
-/

namespace ThermalPress.Libraries

/-- The penalties of several parts taken together. -/
private def total {α : Type} (penaltyOf : α → Nat) (parts : List α) : Nat :=
  parts.foldl (fun sum part => sum + penaltyOf part) 0

/-- The penalty of a run. -/
private def runPenalty (length : Nat) : Nat := if 5 ≤ length then length - 2 else 0

/-- The penalty of the runs of a line, the current one of `length` modules of one colour. -/
private def runsFrom (dark : Bool) (length : Nat) : List Bool → Nat
  | [] => runPenalty length
  | d :: rest => if d == dark then runsFrom dark (length + 1) rest else runPenalty length + runsFrom d 1 rest

/-- The penalty of long runs in a line. -/
def linePenalty (line : List Bool) : Nat := runsFrom false 0 line

/-- The penalty of squares between two rows, given as pairs of modules.  Where the right half of a square is of two
colours, the next square is passed over. -/
private def squaresFrom (skip : Bool) : List (Bool × Bool) → Nat
  | (a, b) :: (c, d) :: rest =>
    if skip then squaresFrom false ((c, d) :: rest)
    else if c != d then squaresFrom true ((c, d) :: rest)
    else (if a == c && b == c then 3 else 0) + squaresFrom false ((c, d) :: rest)
  | _ => 0

/-- The penalty of squares of one colour. -/
def squarePenalty (rows : List (List Bool)) : Nat :=
  total (fun (upper, lower) => squaresFrom false (upper.zip lower)) (rows.zip rows.tail)

/-- A finder in cross section, with light modules behind it. -/
private def finderLine : List Bool := [true, false, true, true, true, false, true, false, false, false, false]

/-- The penalty of what looks like a finder in a line.  Where the eleventh module is dark, the next place is passed
over. -/
private def findersFrom (skip : Bool) : List Bool → Nat
  | [] => 0
  | d :: rest =>
    if skip then findersFrom false rest
    else
      let part := (d :: rest).take 11
      match part[10]? with
      | none => 0
      | some last =>
        (if part == finderLine || part == finderLine.reverse then 40 else 0) + findersFrom last rest

/-- The penalty of what looks like a finder in a line. -/
def finderPenalty (line : List Bool) : Nat := findersFrom false line

/-- The penalty of an uneven share: ten for each five hundredths that the dark modules are away from one half. -/
def sharePenalty (modules dark : Nat) : Nat :=
  let apart := max (20 * dark) (10 * modules) - min (20 * dark) (10 * modules)
  apart / modules * 10

/-- The penalty of a grid. -/
def penalty (grid : Grid) : Nat :=
  let rows := grid.rows
  let lines := rows ++ grid.columns
  total linePenalty lines + squarePenalty rows + total finderPenalty lines +
    sharePenalty (grid.side * grid.side) (grid.cells.countP id)

end ThermalPress.Libraries
