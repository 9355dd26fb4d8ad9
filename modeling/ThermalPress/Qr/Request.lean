import ThermalPress.Command
import ThermalPress.Markup.Visible
import ThermalPress.Settings.Basic
import ThermalPress.Text.CodePoint

/-!
# Symbol requests

What a symbol is to hold and how it is to look (`Request`), and the five commands that make a printer draw it
(`buildFrame`).  Data that is too long is cut, never refused: the payload ends at the limit, a character that does not
fit as a whole is left out (`cutPayload`), and building the frame warns of the cut.
-/

namespace ThermalPress.Qr

/-- The bytes of a text cut to a number of bytes, without a character that is cut in two. -/
def cutPayload (encoded : Bytes) (limit : Int) : Bytes :=
  if encoded.length ≤ limit then encoded else Utf8.encode (Utf8.decodeKeeping (takeUpTo limit encoded))

/-- The bytes that a symbol holds, and the number of bytes of the whole data. -/
structure Payload where
  bytes : Bytes
  dataLength : Nat
  deriving DecidableEq, Repr

/-- The payload of some data within a limit. -/
def truncate (data : List CodePoint) (limit : Int) : Except SurrogateError Payload := do
  let encoded ← Utf8.encodeStrict data
  return ⟨cutPayload encoded limit, encoded.length⟩

/-- A request for a symbol. -/
structure Request where
  data : List CodePoint
  size : Int := 6
  errorLevel : Int := 48
  maxLength : Int := 300
  deriving DecidableEq, Repr

/-- A request for a symbol as the settings have it. -/
def Request.ofSettings (settings : Settings) (data : List CodePoint) : Request :=
  ⟨data, settings.qrSize, settings.qrErrorLevel, settings.maxQrLength⟩

/-- What the symbol of a request is to hold. -/
def Request.payload (request : Request) : Except SurrogateError Payload := truncate request.data request.maxLength

/-- What is said about data that was cut. -/
def truncationText (given kept : Int) : String :=
  "QR data truncated from " ++ toString given ++ " to " ++ toString kept ++ " bytes"

/-- A warning about data that was cut: the number of its bytes, and how many of them the payload has. -/
structure Truncation where
  given : Nat
  kept : Nat
  deriving DecidableEq, Repr

/-- What the warning says. -/
def Truncation.message (t : Truncation) : String := truncationText t.given t.kept

/-- The commands for a symbol, and what the symbol holds. -/
structure Frame where
  commands : Bytes
  payload : Bytes
  dataLength : Nat
  deriving DecidableEq, Repr

/-- Whether the payload lacks some of the data. -/
def Frame.truncated (frame : Frame) : Bool := frame.payload.length < frame.dataLength

/-- Why there are no commands for a symbol. -/
inductive FrameError where
  | surrogates (e : SurrogateError)
  | command (e : CommandError)
  deriving DecidableEq, Repr

/-- What the error says. -/
def FrameError.message : FrameError → String
  | .surrogates e => e.message
  | .command e => e.message

/-- Selects the model, sets the size and the error correction, stores the payload and prints the symbol. -/
def symbolCommands (size errorLevel : Int) (payload : Bytes) : Except CommandError Bytes := do
  let model ← Command.selectModel Command.symbolModel
  let size ← Command.moduleSize size
  let level ← Command.errorCorrection errorLevel
  let store ← Command.store payload
  return model ++ size ++ level ++ store ++ Command.printStored

/-- What comes of building a frame: the warnings on the way, and the frame or why there is none. -/
structure FrameBuild where
  warnings : List Truncation
  result : Except FrameError Frame

/-- Builds the commands for a symbol.  Cut data is warned of before anything else can be wrong. -/
def buildFrame (request : Request) : FrameBuild :=
  match request.payload with
  | .error e => ⟨[], .error (.surrogates e)⟩
  | .ok payload =>
    { warnings :=
        if payload.bytes.length < payload.dataLength then [⟨payload.dataLength, payload.bytes.length⟩] else []
      result := do
        let commands ← (symbolCommands request.size request.errorLevel payload.bytes).mapError .command
        return ⟨commands, payload.bytes, payload.dataLength⟩ }

/-- The commands for a symbol. -/
def frame (request : Request) : Except FrameError Frame := (buildFrame request).result

end ThermalPress.Qr
