import ThermalPress.Text.Blank
import ThermalPress.Text.Quoted

/-!
# Whole numbers as text

Reading a whole number in base ten or sixteen (`Integer.read?`).  White space around the number, a sign, and single
underscores between digits are allowed, and the digits may be those of any script.  How many digits a number may have
is left open.
-/

namespace ThermalPress

namespace Integer

/-- The zeros of the decimal digits of all scripts; the other nine digits follow each zero. -/
def zeros : List Nat := [
  0x30, 0x660, 0x6F0, 0x7C0, 0x966, 0x9E6, 0xA66, 0xAE6, 0xB66, 0xBE6, 0xC66, 0xCE6, 0xD66, 0xDE6, 0xE50,
  0xED0, 0xF20, 0x1040, 0x1090, 0x17E0, 0x1810, 0x1946, 0x19D0, 0x1A80, 0x1A90, 0x1B50, 0x1BB0, 0x1C40, 0x1C50,
  0xA620, 0xA8D0, 0xA900, 0xA9D0, 0xA9F0, 0xAA50, 0xABF0, 0xFF10, 0x104A0, 0x10D30, 0x11066, 0x110F0, 0x11136,
  0x111D0, 0x112F0, 0x11450, 0x114D0, 0x11650, 0x116C0, 0x11730, 0x118E0, 0x11950, 0x11C50, 0x11D50, 0x11DA0,
  0x16A60, 0x16AC0, 0x16B50, 0x1D7CE, 0x1D7D8, 0x1D7E2, 0x1D7EC, 0x1D7F6, 0x1E140, 0x1E2F0, 0x1E950, 0x1FBF0]

/-- The value of a decimal digit of any script. -/
def decimalDigit? (c : Char) : Option Nat :=
  (zeros.find? fun first => first ≤ c.toNat && c.toNat < first + 10).map fun first => c.toNat - first

/-- The value of a digit, counting the letters after the ten decimal digits. -/
def digit? (c : Char) : Option Nat :=
  match decimalDigit? c with
  | some d => some d
  | none =>
    if 'a' ≤ c && c ≤ 'z' then some (c.toNat - 'a'.toNat + 10)
    else if 'A' ≤ c && c ≤ 'Z' then some (c.toNat - 'A'.toNat + 10)
    else none

/-- Reads digits after the value `n`; an underscore must stand between two digits. -/
def digitsAfter? (base : Nat) : Nat → List Char → Option Nat
  | n, [] => some n
  | n, c :: rest =>
    match c, rest with
    | '_', d :: rest => (digit? d).bind fun v => if v < base then digitsAfter? base (n * base + v) rest else none
    | c, rest => (digit? c).bind fun v => if v < base then digitsAfter? base (n * base + v) rest else none

/-- The digits without the mark `0x` that hexadecimal numbers may have; its zero may be that of any script. -/
def dropMark (base : Nat) (s : List Char) : List Char :=
  match base, s with
  | 16, zero :: x :: rest =>
    if decimalDigit? zero == some 0 && (x == 'x' || x == 'X') then (if rest.head? == some '_' then rest.tail else rest)
    else s
  | _, s => s

/-- The number of an unsigned text. -/
def magnitude? (base : Nat) (s : List Char) : Option Nat :=
  match dropMark base s with
  | [] => none
  | c :: rest => (digit? c).bind fun v => if v < base then digitsAfter? base v rest else none

/-- The number that a text stands for. -/
def read? (base : Nat) (s : List Char) : Option Int :=
  match trimNumber s with
  | '-' :: rest => (magnitude? base rest).map fun n => -(n : Int)
  | '+' :: rest => (magnitude? base rest).map fun n => (n : Int)
  | s => (magnitude? base s).map fun n => (n : Int)

end Integer

/-- A text that is no whole number. -/
structure IntegerError where
  base : Nat
  text : String
  deriving DecidableEq, Repr

/-- What the error says. -/
def IntegerError.message (e : IntegerError) : String :=
  "invalid literal for int() with base " ++ toString e.base ++ ": " ++ quotedString e.text

/-- The number that a text stands for, or the text as an error. -/
def Integer.read (base : Nat) (text : String) : Except IntegerError Int :=
  match Integer.read? base text.toList with
  | some n => .ok n
  | none => .error ⟨base, text⟩

end ThermalPress
