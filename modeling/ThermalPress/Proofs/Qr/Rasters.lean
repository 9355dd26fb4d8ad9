import ThermalPress.Proofs.Results
import ThermalPress.Qr.Raster
import ThermalPress.RasterCommand

/-!
# When an image is sent

An image is sent if there is a symbol that is not too wide, and its picture can be printed (`rasterize_eq_ok_iff`).
What is assumed of a renderer is said here, too: that it refuses in time (`Renderer.Draws`), and what the pictures are
like that it prints (`Renderer.Faithful`).
-/

namespace ThermalPress.Qr

variable [Renderer]

/-- What a renderer has made a symbol of can be drawn.  It refuses before that, or when the picture is to be printed. -/
structure Renderer.Draws : Prop where
  drawn {level : ErrorLevel} {boxSize : Int} {border : Nat} {payload : Bytes} {symbol : Symbol} :
    Renderer.make level boxSize border payload = .ok symbol → ∃ image, symbol.image = .ok image

/-- The most rows of dots that are sent at once. -/
def bandHeight : Nat := 960

/-- A symbol has at most 177 modules on a side.  Its picture is a square, with every module as wide as asked for, and
the border around it.  A picture is printed in bands of at most `bandHeight` rows, one after another. -/
structure Renderer.Faithful : Prop where
  modules_le {level : ErrorLevel} {boxSize : Int} {border : Nat} {payload : Bytes} {symbol : Symbol} :
    Renderer.make level boxSize border payload = .ok symbol → symbol.modules ≤ 177
  square {level : ErrorLevel} {boxSize : Int} {border : Nat} {payload : Bytes} {symbol : Symbol} {image : Image} :
    Renderer.make level boxSize border payload = .ok symbol → symbol.image = .ok image →
      (image.width : Int) = (symbol.modules + 2 * border : Nat) * boxSize ∧ image.rows.length = image.width
  banded {profile : Option String} {image : Image} {bytes : Bytes} :
    Renderer.print profile image = .ok bytes → ∃ bands : List (List (List Bool)), bands.flatten = image.rows ∧
      (∀ band ∈ bands, 0 < band.length ∧ band.length ≤ bandHeight) ∧
      bytes = bands.flatMap fun band => (RasterCommand.ofRows image.width band).bytes

variable {payload raster : Bytes} {size errorLevel maxWidth : Int} {profile : Option String}

theorem makeSymbol_eq_ok_iff {symbol : Symbol} : makeSymbol payload size errorLevel = .ok symbol ↔
    ∃ level, ErrorLevel.ofNumber? errorLevel = some level ∧
      Renderer.make level size quietZone payload = .ok symbol := by
  unfold makeSymbol
  cases ErrorLevel.ofNumber? errorLevel with
  | none => simp
  | some level => simp

/-- An image is sent if there is a symbol that is not too wide, and its picture can be printed. -/
theorem rasterize_eq_ok_iff : rasterize payload size errorLevel maxWidth profile = .ok raster ↔
    ∃ symbol image, makeSymbol payload size errorLevel = .ok symbol ∧ imageSide symbol.modules size ≤ maxWidth ∧
      symbol.image = .ok image ∧ Renderer.print (profile.filter (· ≠ "")) image = .ok raster := by
  unfold rasterize
  constructor
  · intro h
    split at h
    · cases h
    next symbol hsymbol =>
    dsimp only at h
    split at h
    · cases h
    next hwide =>
    split at h
    · cases h
    next image himage =>
    exact ⟨symbol, image, hsymbol, Int.not_lt.1 hwide, himage, mapError_eq_ok_iff.1 h⟩
  · rintro ⟨symbol, image, hsymbol, hwidth, himage, hprinted⟩
    simp only [hsymbol, Int.not_lt.2 hwidth, if_false, himage, hprinted]
    rfl

/-- An image is sent or unsupported. -/
theorem Renderer.Draws.rasterize_cases (h : Renderer.Draws) (payload : Bytes) (size errorLevel maxWidth : Int)
    (profile : Option String) : (∃ raster, rasterize payload size errorLevel maxWidth profile = .ok raster) ∨
      ∃ e, rasterize payload size errorLevel maxWidth profile = .error (.unsupported e) := by
  unfold rasterize
  split
  · next e _ => exact .inr ⟨e, rfl⟩
  next symbol hsymbol =>
  obtain ⟨level, -, hmake⟩ := makeSymbol_eq_ok_iff.1 hsymbol
  obtain ⟨image, himage⟩ := h.drawn hmake
  dsimp only
  split
  · exact .inr ⟨_, rfl⟩
  · rw [himage]
    dsimp only
    cases Renderer.print (profile.filter (· ≠ "")) image with
    | error reason => exact .inr ⟨.unconverted reason, rfl⟩
    | ok raster => exact .inl ⟨raster, rfl⟩

end ThermalPress.Qr
