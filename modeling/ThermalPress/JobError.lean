import ThermalPress.Command
import ThermalPress.Qr.Renderer
import ThermalPress.Text.Casing
import ThermalPress.Text.CodePoint
import ThermalPress.Text.Codecs

/-!
# Errors of building a job

Why the bytes of a job could not be built: a tag that is recognised without naming anything, an encoding that fails,
a command parameter out of range, a symbol for what is no text, or one that cannot be drawn.
-/

namespace ThermalPress

/-- A tag that is recognised by the letters it resembles, but whose name, as spelled, is none of the tag names. -/
structure UnknownTag where
  closing : Bool
  spelled : List Char
  deriving DecidableEq, Repr

/-- What the error says: the slash, if any, and the name in small letters. -/
def UnknownTag.message (tag : UnknownTag) : String :=
  "(" ++ quotedString (if tag.closing then "/" else "") ++ ", " ++ String.ofList (quoted (lower tag.spelled)) ++ ")"

/-- Why the bytes of a job could not be built. -/
inductive JobError where
  | tag (e : UnknownTag)
  | encoding (e : EncodingError)
  | command (e : CommandError)
  | surrogates (e : SurrogateError)
  | drawing (e : Qr.DrawingError)
  deriving DecidableEq, Repr

/-- What the error says. -/
def JobError.message : JobError → String
  | .tag e => e.message
  | .encoding e => e.message
  | .command e => e.message
  | .surrogates e => e.message
  | .drawing e => e.text

instance : MonadLift (Except UnknownTag) (Except JobError) := ⟨fun x => x.mapError .tag⟩

instance : MonadLift (Except EncodingError) (Except JobError) := ⟨fun x => x.mapError .encoding⟩

instance : MonadLift (Except CommandError) (Except JobError) := ⟨fun x => x.mapError .command⟩

end ThermalPress
