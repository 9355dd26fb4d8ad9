import ThermalPress.Text.Utf8

/-!
# Renderers

How a payload becomes a symbol, what the symbol looks like, and which commands make a printer print a picture of it is
up to the system (`Renderer`).  Making a symbol and printing a picture may be refused, for reasons of the system's own.
-/

namespace ThermalPress.Qr

/-- How much of a symbol may be damaged. -/
inductive ErrorLevel where
  | low
  | medium
  | quartile
  | high
  deriving DecidableEq, Repr

/-- The level that a printer knows by a number. -/
def ErrorLevel.ofNumber? (n : Int) : Option ErrorLevel :=
  if n = 48 then some .low else if n = 49 then some .medium else if n = 50 then some .quartile
  else if n = 51 then some .high else none

/-- A picture of dark and light dots, row by row. -/
structure Image where
  width : Nat
  rows : List (List Bool)
  length_row : ∀ row ∈ rows, row.length = width

/-- Why there is no picture of a symbol. -/
structure DrawingError where
  kind : String
  text : String
  deriving DecidableEq, Repr

/-- A symbol: the number of modules on a side, and its picture. -/
structure Symbol where
  modules : Nat
  image : Except DrawingError Image

/-- What makes symbols, and prints pictures on a printer of some profile.  Both say why they refuse. -/
class Renderer where
  make : (level : ErrorLevel) → (boxSize : Int) → (border : Nat) → (payload : Bytes) → Except String Symbol
  print : (profile : Option String) → Image → Except String Bytes

end ThermalPress.Qr
