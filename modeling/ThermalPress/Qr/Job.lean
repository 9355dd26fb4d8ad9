import ThermalPress.JobError
import ThermalPress.Log.Record
import ThermalPress.Qr.Raster
import ThermalPress.Qr.Request
import ThermalPress.Text.Blank

/-!
# Symbol jobs

A symbol is printed in one of three ways (`Presentation`): alone, with a caption under it, or as a raster image with
a caption.  An image that is unsupported is printed by the printer's own commands instead (`imageJob`), which is no
failure of the job.
-/

namespace ThermalPress.Qr

/-- How a symbol is printed. -/
inductive Presentation where
  | bare
  | caption
  | image
  deriving DecidableEq, Repr

/-- The word for a presentation. -/
def Presentation.name : Presentation → String
  | .bare => "bare"
  | .caption => "caption"
  | .image => "image"

/-- The bytes of a job and how they came about. -/
structure Job where
  data : Bytes
  frame : Frame
  presentation : Presentation
  /-- Why an image was asked for and not printed. -/
  refusal : Option RenderError
  deriving DecidableEq, Repr

/-- Whether the symbol is printed by commands where an image was asked for. -/
def Job.fallback (job : Job) : Bool := job.refusal.isSome

/-- Why a job has no symbol. -/
def FrameError.toJobError : FrameError → JobError
  | .surrogates e => .surrogates e
  | .command e => .command e

instance : MonadLift (Except FrameError) (Except JobError) := ⟨fun x => x.mapError FrameError.toJobError⟩

/-- What is said about an image that was not printed. -/
def fallbackText (e : RenderError) : String :=
  "QR image unavailable (" ++ e.message ++ "); using native QR commands"

/-- What is recorded about the data of a request: a warning if it was cut. -/
def Request.records (request : Request) (label : String) : List LogRecord :=
  (buildFrame request).warnings.map fun t => Source.symbols.record .warning label t.message

/-- What is recorded about an image: that it could not be printed. -/
def refusalRecords (refusal : Option RenderError) (label : String) : List LogRecord :=
  refusal.toList.map fun e => Source.symbols.record .info label (fallbackText e)

/-- Line feeds with a carriage return in front of each. -/
def splitLineEnds (s : List Char) : List Char := s.flatMap fun c => if c = '\n' then ['\r', '\n'] else [c]

variable [Codecs]

/-- A caption with something to see in it. -/
def shownCaption? (caption : Option (List Char)) : Option (List Char) := caption.filter fun s => !isBlankText s

/-- The bytes of a caption; none of a blank one. -/
def encodedCaption (caption : Option (List Char)) (encoding : String) : Except EncodingError Bytes :=
  match shownCaption? caption with
  | none => .ok []
  | some s => (Codecs.encode encoding (splitLineEnds (unifyLineEnds s))).map (· ++ Command.lineEnd)

/-- The paper that is fed after a symbol that stands alone. -/
def bareJobFeed : Bytes := Command.lineFeed ++ Command.lineFeed ++ Command.lineFeed

/-- A symbol alone, in the middle of the line. -/
def bareBytes (symbol : Bytes) : Bytes :=
  Command.reset ++ Command.align .center ++ symbol ++ bareJobFeed ++ Command.align .left

/-- A symbol in the middle of the line, a caption under it, and empty lines. -/
def captionedBytes (symbol : Bytes) (caption : Option (List Char)) (bottomFeed : Int) (encoding : String) :
    Except EncodingError Bytes := do
  let text ← encodedCaption caption encoding
  return Command.reset ++ Command.align .center ++ symbol ++ Command.lineFeed ++ text ++
    Command.blankLines bottomFeed ++ Command.align .left

/-- A symbol alone. -/
def bareJob (request : Request) : Except JobError Job := do
  let frame ← frame request
  return ⟨bareBytes frame.commands, frame, .bare, none⟩

/-- A symbol with a caption. -/
def captionedJob (request : Request) (caption : Option (List Char)) (bottomFeed : Int) (encoding : String) :
    Except JobError Job := do
  let frame ← frame request
  let data ← captionedBytes frame.commands caption bottomFeed encoding
  return ⟨data, frame, .caption, none⟩

section Images

variable [Renderer]

/-- Why an image of the symbol of a request is unsupported, if the symbol can be asked for at all. -/
def refusal? (request : Request) (maxWidth : Int) (profile : Option String) : Option RenderError :=
  match frame request with
  | .error _ => none
  | .ok frame =>
    match rasterize frame.payload request.size request.errorLevel maxWidth profile with
    | .error (.unsupported e) => some e
    | _ => none

/-- A symbol as an image with a caption; by the printer's own commands if the image is unsupported. -/
def imageJob (request : Request) (caption : Option (List Char)) (bottomFeed : Int) (encoding : String)
    (maxWidth : Int) (profile : Option String) : Except JobError Job := do
  let frame ← frame request
  match rasterize frame.payload request.size request.errorLevel maxWidth profile with
  | .ok raster =>
    let data ← captionedBytes raster caption bottomFeed encoding
    return ⟨data, frame, .image, none⟩
  | .error (.unsupported refusal) =>
    if (shownCaption? caption).isSome then
      let data ← captionedBytes frame.commands caption bottomFeed encoding
      return ⟨data, frame, .caption, some refusal⟩
    else return ⟨bareBytes frame.commands, frame, .bare, some refusal⟩
  | .error (.drawing e) => throw (.drawing e)

end Images

end ThermalPress.Qr
