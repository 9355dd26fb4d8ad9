import ThermalPress.Libraries.Symbol.Masking
import ThermalPress.Qr.Raster
import ThermalPress.RasterCommand
import ThermalPress.Text.Quoted

/-!
# The renderer of one system

A renderer to run the program with.  Its pictures are squares in which every module is `boxSize` dots wide, and it
prints them in bands of at most `bandHeight` rows.  The printers it knows are those of `profiles`.  Nothing else in the
library depends on how this renderer goes about it.
-/

namespace ThermalPress.Libraries

open Qr

/-! ### Pictures -/

/-- A row of modules with light ones around it, each module drawn as wide as it is to be. -/
def rowDots (border boxSize : Nat) (modules : List Bool) : List Bool :=
  let margin := List.replicate border false
  (margin ++ modules ++ margin).flatMap (List.replicate boxSize)

/-- The rows of the picture of a symbol. -/
def pictureRows (border boxSize : Nat) (grid : Grid) : List (List Bool) :=
  let margin := List.replicate border (List.replicate grid.side false)
  (margin ++ grid.rows ++ margin).flatMap fun modules => List.replicate boxSize (rowDots border boxSize modules)

/-- The number of dots on a side of the picture of a symbol. -/
def pictureSide (border boxSize : Nat) (grid : Grid) : Nat := (grid.side + 2 * border) * boxSize

theorem length_rowDots (border boxSize : Nat) (modules : List Bool) :
    (rowDots border boxSize modules).length = (modules.length + 2 * border) * boxSize := by
  simp only [rowDots, List.length_flatMap, List.length_append, List.length_replicate, List.map_const',
    List.sum_replicate_nat]
  congr 1
  omega

/-- Every row of a picture is as long as its side. -/
theorem length_of_mem_pictureRows {border boxSize : Nat} {grid : Grid} {row : List Bool}
    (h : row ∈ pictureRows border boxSize grid) : row.length = pictureSide border boxSize grid := by
  obtain ⟨modules, hmodules, hrow⟩ := List.mem_flatMap.1 h
  have hside : modules.length = grid.side := by
    simp only [Grid.rows, List.mem_append, List.mem_replicate, List.mem_map] at hmodules
    rcases hmodules with (⟨-, rfl⟩ | ⟨row, -, rfl⟩) | ⟨-, rfl⟩ <;> simp
  rw [(List.mem_replicate.1 hrow).2, length_rowDots, hside, pictureSide]

/-- The picture of a symbol. -/
def picture (border boxSize : Nat) (grid : Grid) : Image :=
  ⟨pictureSide border boxSize grid, pictureRows border boxSize grid, fun _ => length_of_mem_pictureRows⟩

/-- Makes the symbol of a payload, each module of it `boxSize` dots wide. -/
def makeSymbol (level : ErrorLevel) (boxSize : Int) (border : Nat) (payload : Bytes) : Except String Symbol :=
  if boxSize ≤ 0 then .error ("Invalid box size (was " ++ toString boxSize ++ ", expected larger than 0)")
  else match symbolOf level payload with
    | .ok grid => .ok ⟨grid.side, .ok (picture border boxSize.toNat grid)⟩
    | .error .tooLong => .error ("Invalid version (was " ++ toString (lastVersion + 1) ++ ", expected 1 to " ++
        toString lastVersion ++ ")")
    | .error .emptyBlock => .error "glog(0)"

/-! ### Printing -/

/-- The known printer profiles and the widest picture of each, if it has a limit. -/
def profiles : List (String × Option Nat) := [
  ("default", none), ("RP326", none), ("TUP500", none), ("POS-5890", some 384), ("TM-T88V", some 512),
  ("AF-240", some 100)]

/-- Whether a printer of that profile can print a picture of that width. -/
def checkProfile (profile : Option String) (width : Nat) : Except String Unit :=
  match profile with
  | none => .ok ()
  | some name =>
    match profiles.lookup name with
    | none => .error (quotedString name)
    | some none => .ok ()
    | some (some limit) =>
      if limit < width then
        .error ("Image width is too large (" ++ toString width ++ " > " ++ toString limit ++ ")")
      else .ok ()

/-- The most rows that are sent at once. -/
def bandHeight : Nat := 960

/-- Cuts rows into bands of at most `height`. -/
def bands (height : Nat) (rows : List (List Bool)) : List (List (List Bool)) :=
  match rows with
  | [] => []
  | row :: rest => (row :: rest.take (height - 1)) :: bands height (rest.drop (height - 1))
termination_by rows.length
decreasing_by simp only [List.length_drop, List.length_cons]; omega

/-- The commands that print a picture. -/
def printImage (profile : Option String) (image : Image) : Except String Bytes := do
  checkProfile profile image.width
  return (bands bandHeight image.rows).flatMap fun band => (RasterCommand.ofRows image.width band).bytes

/-- The first eight bytes of each command that prints rows of dots: what it is, and its width and height. -/
def blockHeaders (commands : Bytes) : List Bytes :=
  if _h : commands = [] then []
  else
    let number (low : Nat) : Nat := (commands[low]?.getD 0).toNat + 256 * (commands[low + 1]?.getD 0).toNat
    commands.take 8 :: blockHeaders (commands.drop (8 + number 4 * number 6))
termination_by commands.length
decreasing_by
  have := List.length_pos_iff.2 _h
  simp only [List.length_drop]; omega

scoped instance renderer : Renderer where
  make := makeSymbol
  print := printImage

end ThermalPress.Libraries
