import ThermalPress.Qr.Renderer

/-!
# Raster images

A symbol as an image for a printer without symbol commands (`rasterize`).  Each module is a square of `size` dots, and
four light modules surround the symbol.  A payload without a symbol, a symbol that is too wide and a picture that
cannot be printed are unsupported (`RenderError`).  Whether it is too wide is told by the number of its modules, before
there is a picture of it.
-/

namespace ThermalPress.Qr

/-- Why a symbol is not printed as an image. -/
inductive RenderError where
  | rejected (reason : String)
  | tooWide (width limit : Int)
  | unconverted (reason : String)
  deriving DecidableEq, Repr

/-- What the error says. -/
def RenderError.message : RenderError → String
  | .rejected reason => "QR encoder rejected payload: " ++ reason
  | .tooWide width limit =>
    "QR image " ++ toString width ++ "px wider than printable " ++ toString limit ++ "px"
  | .unconverted reason => "Raster conversion failed: " ++ reason

/-- Why there are no commands for an image: it is unsupported, or a symbol was made that cannot be drawn. -/
inductive RasterError where
  | unsupported (e : RenderError)
  | drawing (e : DrawingError)
  deriving DecidableEq, Repr

/-- The number of light modules around a symbol. -/
def quietZone : Nat := 4

/-- The number of dots on a side of a symbol with what surrounds it. -/
def imageSide (modules : Nat) (size : Int) : Int := (modules + 2 * quietZone : Nat) * size

variable [Renderer]

/-- The symbol of a payload, if the level is a known one and the payload is not rejected. -/
def makeSymbol (payload : Bytes) (size errorLevel : Int) : Except RenderError Symbol :=
  match ErrorLevel.ofNumber? errorLevel with
  | none => .error (.rejected (toString errorLevel))
  | some level => (Renderer.make level size quietZone payload).mapError .rejected

/-- The commands that print the symbol of a payload as an image at most `maxWidth` dots wide. -/
def rasterize (payload : Bytes) (size errorLevel maxWidth : Int) (profile : Option String) :
    Except RasterError Bytes :=
  match makeSymbol payload size errorLevel with
  | .error e => .error (.unsupported e)
  | .ok symbol =>
    let width := imageSide symbol.modules size
    if maxWidth < width then .error (.unsupported (.tooWide width maxWidth))
    else match symbol.image with
      | .error e => .error (.drawing e)
      | .ok image =>
        (Renderer.print (profile.filter (· ≠ "")) image).mapError fun reason => .unsupported (.unconverted reason)

end ThermalPress.Qr
