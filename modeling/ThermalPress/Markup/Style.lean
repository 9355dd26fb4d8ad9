import ThermalPress.Markup.Row

/-!
# Printer style

The style that the tokens sent so far have left the printer in, and the commands that bring it back to plain text at
the left margin (`Style.restore`).  `styleCommand?` gives the bytes of a token that is not printed as text.
-/

namespace ThermalPress

/-- The style of a printer. -/
structure Style where
  bold : Bool
  double : Bool
  align : Alignment
  deriving DecidableEq, Repr

namespace Style

/-- Plain text at the left margin. -/
def plain : Style := ⟨false, false, .left⟩

/-- The style after a token. -/
def apply (style : Style) : TokenKind → Style
  | .bold on => { style with bold := on }
  | .double on => { style with double := on }
  | .align side => { style with align := side }
  | _ => style

/-- The style after tokens sent one after another. -/
def applyAll (style : Style) (kinds : List TokenKind) : Style := kinds.foldl apply style

/-- The commands that lead back to plain text at the left margin. -/
def restore (style : Style) : Bytes :=
  (if style.bold then Command.bold false else []) ++
    (if style.double then Command.double false else []) ++
    (if style.align = .left then [] else Command.align .left)

theorem applyAll_append (style : Style) (kinds more : List TokenKind) :
    style.applyAll (kinds ++ more) = (style.applyAll kinds).applyAll more := List.foldl_append ..

end Style

/-- The bytes that stand for a token; nothing for a token that is printed as text. -/
def styleCommand? : TokenKind → Option Bytes
  | .text | .cellOpen | .cellClose => none
  | .newline | .rowStart | .lineBreak => some Command.lineEnd
  | .rowEnd | .alignClose => some []
  | .align side => some (Command.align side)
  | .bold on => some (Command.bold on)
  | .double on => some (Command.double on)

end ThermalPress
