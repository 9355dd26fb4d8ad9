import ThermalPress.Markup.Style

/-!
# What a printer does with the bytes it is sent

A printer reads bytes one at a time (`Printer.feed`).  Three commands change its style: `ESC a n` the alignment,
`ESC E n` the emphasis and `GS ! n` the size.  The parameter of `ESC 3 n`, the distance of lines, is taken without a
change, and every other byte is printed in the style that holds.

Each command that a job is made of ends with the printer ready for text, in the style that the command stands for
(`feedAll_align`, `feedAll_bold`, `feedAll_double`), and the commands of `Style.restore` lead back to plain text at
the left margin from any style (`feedAll_restore`).
-/

namespace ThermalPress

/-- What the next byte is read as. -/
inductive Reading where
  /-- A byte to print, or the first of a command. -/
  | text
  /-- The byte behind `ESC`. -/
  | escaped
  /-- The byte behind `GS`. -/
  | grouped
  | alignment
  | emphasis
  | size
  | spacing
  deriving DecidableEq, Repr

/-- A printer in the middle of the bytes it is sent. -/
structure Printer where
  style : Style
  reading : Reading
  deriving DecidableEq, Repr

namespace Printer

/-- A printer that is not in the middle of a command. -/
def ready (style : Style) : Printer := ⟨style, .text⟩

/-- Reads a byte that belongs to no command yet. -/
def start (style : Style) (b : UInt8) : Printer :=
  if b = 0x1B then ⟨style, .escaped⟩ else if b = 0x1D then ⟨style, .grouped⟩ else ready style

/-- The alignment of a parameter, which may be a number or a digit. -/
def alignmentOf? (n : UInt8) : Option Alignment :=
  if n = 0 ∨ n = 48 then some .left
  else if n = 1 ∨ n = 49 then some .center
  else if n = 2 ∨ n = 50 then some .right
  else none

/-- Reads a byte.  A byte that does not go on with the command that `ESC` or `GS` seemed to begin is read anew. -/
def feed (p : Printer) (b : UInt8) : Printer :=
  match p.reading with
  | .text => start p.style b
  | .escaped =>
    if b = 0x61 then { p with reading := .alignment }
    else if b = 0x45 then { p with reading := .emphasis }
    else if b = 0x33 then { p with reading := .spacing }
    else start p.style b
  | .grouped => if b = 0x21 then { p with reading := .size } else start p.style b
  | .alignment => ready { p.style with align := (alignmentOf? b).getD p.style.align }
  | .emphasis => ready { p.style with bold := b.toNat % 2 = 1 }
  | .size => ready { p.style with double := b ≠ 0 }
  | .spacing => ready p.style

/-- Reads bytes one after another. -/
def feedAll (p : Printer) (bytes : Bytes) : Printer := bytes.foldl feed p

@[simp] theorem feedAll_nil (p : Printer) : p.feedAll [] = p := rfl

@[simp] theorem feedAll_cons (p : Printer) (b : UInt8) (bytes : Bytes) :
    p.feedAll (b :: bytes) = (p.feed b).feedAll bytes := rfl

@[simp] theorem feedAll_append (p : Printer) (bytes more : Bytes) :
    p.feedAll (bytes ++ more) = (p.feedAll bytes).feedAll more := List.foldl_append ..

/-! ### Text and commands -/

/-- Bytes that begin no command change nothing. -/
theorem feedAll_printed {bytes : Bytes} (h : 0x1B ∉ bytes ∧ 0x1D ∉ bytes) (style : Style) :
    (ready style).feedAll bytes = ready style := by
  induction bytes with
  | nil => rfl
  | cons b bytes ih =>
    simp only [List.mem_cons, not_or] at h
    have hb : (ready style).feed b = ready style := by
      simp [feed, ready, start, Ne.symm h.1.1, Ne.symm h.2.1]
    rw [feedAll_cons, hb]
    exact ih ⟨h.1.2, h.2.2⟩

@[simp] theorem feedAll_lineEnd (style : Style) : (ready style).feedAll Command.lineEnd = ready style := by
  rfl

@[simp] theorem feedAll_blankLines (style : Style) (n : Int) :
    (ready style).feedAll (Command.blankLines n) = ready style := by
  unfold Command.blankLines
  induction n.toNat with
  | zero => rfl
  | succ n ih => rw [List.replicate_succ, List.flatten_cons, feedAll_append, feedAll_lineEnd, ih]

/-- The parameter of the distance of lines is taken, whatever byte it is. -/
@[simp] theorem feedAll_lineSpacing (style : Style) (n : UInt8) :
    (ready style).feedAll [0x1B, 0x33, n] = ready style := by
  rfl

@[simp] theorem feedAll_align (style : Style) (side : Alignment) :
    (ready style).feedAll (Command.align side) = ready { style with align := side } := by
  cases side <;> rfl

@[simp] theorem feedAll_bold (style : Style) (on : Bool) :
    (ready style).feedAll (Command.bold on) = ready { style with bold := on } := by
  cases on <;> rfl

@[simp] theorem feedAll_double (style : Style) (on : Bool) :
    (ready style).feedAll (Command.double on) = ready { style with double := on } := by
  cases on <;> rfl

/-- The commands of a style that is taken back leave plain text at the left margin. -/
theorem feedAll_restore (style : Style) : (ready style).feedAll style.restore = ready .plain := by
  obtain ⟨bold, double, align⟩ := style
  cases bold <;> cases double <;> cases align <;> simp [Style.restore, Style.plain]

/-- The command of a token that is not printed changes the style as the token does. -/
theorem feedAll_styleCommand {kind : TokenKind} {command : Bytes} (h : styleCommand? kind = some command)
    (style : Style) : (ready style).feedAll command = ready (style.apply kind) := by
  cases kind <;> simp only [styleCommand?, Option.some.injEq, reduceCtorEq] at h <;> subst h <;> simp [Style.apply]

end Printer

end ThermalPress
