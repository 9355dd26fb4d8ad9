import ThermalPress.Markup.Token

/-!
# Rows

The rows of a document (`rowsOf`).  A row begins at every `<tr>` and at every line end; `</tr>` leaves no trace.
The document itself begins a row, so a `<tr>` that it opens with would leave an empty row in front: each one of
them takes that row away again.
-/

namespace ThermalPress

/-- A row of a document. -/
abbrev Row := List Token

/-- A token that begins a new row. -/
def Token.beginsRow (t : Token) : Bool := t.kind = .rowStart || t.kind = .newline

/-- Puts a token in front of the first row. -/
def consToken (t : Token) : List Row → List Row
  | [] => [[t]]
  | row :: rows => (t :: row) :: rows

/-- The tokens cut before each row, the markers of rows left out. -/
def cutRows : List Token → List Row
  | [] => [[]]
  | t :: tokens =>
    if t.beginsRow then [] :: cutRows tokens
    else if t.kind = .rowEnd then cutRows tokens
    else consToken t (cutRows tokens)

/-- Removes an empty first row for each `<tr>` that the tokens open with, as long as another row follows it. -/
def trimOpening : List Token → List Row → List Row
  | t :: tokens, [] :: row :: rows =>
    if t.kind = .rowStart then trimOpening tokens (row :: rows) else [] :: row :: rows
  | _, rows => rows

/-- The rows of a document. -/
def rowsOf (tokens : List Token) : List Row := trimOpening tokens (cutRows tokens)

end ThermalPress
