import ThermalPress.Markup.Row
import ThermalPress.Markup.Visible

/-!
# Columns

The layout of a row (`arrange`).  The cells of a row become one line: a single cell is centred, the first of two
stands at the left margin and the second is pushed to the right by blanks, and further cells are dropped.  What
stands outside the cells follows them.  A cell goes from an opening marker to the next closing one; a marker without
a partner, and an opening marker inside a cell, is plain text.
-/

namespace ThermalPress

/-- The cells of a row, and what stands outside them. -/
structure Cells where
  cells : List Row
  outside : Row
  deriving DecidableEq, Repr

/-- An opening marker as plain text; other tokens stay. -/
def openerAsText (t : Token) : Token := if t.kind = .cellOpen then t.literal else t

/-- A closing marker as plain text; other tokens stay. -/
def closerAsText (t : Token) : Token := if t.kind = .cellClose then t.literal else t

/-- The cells of a row: after an opening marker, everything up to the next closing one. -/
def splitCells : Row → Cells
  | [] => ⟨[], []⟩
  | t :: row =>
    if t.kind = .cellOpen then
      match _h : row.dropWhile (·.kind ≠ .cellClose) with
      | _ :: after =>
        let rest := splitCells after
        { rest with cells := (row.takeWhile (·.kind ≠ .cellClose)).map openerAsText :: rest.cells }
      | [] => ⟨[], t.literal :: row.map openerAsText⟩
    else
      let rest := splitCells row
      { rest with outside := closerAsText t :: rest.outside }
termination_by row => row.length
decreasing_by
  · have hd : (row.dropWhile (·.kind ≠ .cellClose)).length ≤ row.length := (List.dropWhile_sublist _).length_le
    simp only [_h, List.length_cons] at hd ⊢
    omega
  · simp

/-- A token that sets or ends an alignment. -/
def Token.isAlignment (t : Token) : Bool :=
  match t.kind with
  | .align _ | .alignClose => true
  | _ => false

/-- A cell without its alignment. -/
def dropAlignment (cell : Row) : Row := cell.filter fun t => !t.isAlignment

/-- The number of blanks between two columns: what is left of the line, and at least one. -/
def gapBetween (left right : Row) (width : Int) : Nat :=
  (max 1 (width - (visibleWidth (rawText left) + visibleWidth (rawText right)))).toNat

/-- A text token of that many blanks. -/
def blanks (count : Nat) : Token := ⟨.text, List.replicate count ' '⟩

/-- The token that centres a line. -/
def centering : Token := ⟨.align .center, ['<', 'c', 'e', 'n', 't', 'e', 'r', '>']⟩

/-- The row with its cells laid out on a line of that width. -/
def arrange (row : Row) (width : Int) : Row :=
  match splitCells row with
  | ⟨[], _⟩ => row
  | ⟨[cell], outside⟩ => centering :: (dropAlignment cell ++ outside)
  | ⟨first :: second :: _, outside⟩ =>
    let left := dropAlignment first
    let right := dropAlignment second
    left ++ blanks (gapBetween left right width) :: (right ++ outside)

/-- The number of cells that the layout of a row drops. -/
def droppedCells (row : Row) : Nat := (splitCells row).cells.length - 2

end ThermalPress
