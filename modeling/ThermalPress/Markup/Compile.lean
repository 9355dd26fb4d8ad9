import ThermalPress.Markup.Columns
import ThermalPress.Markup.Style
import ThermalPress.Settings.Basic

/-!
# Text jobs

From a document to the bytes of a job.  The rows are laid out, each token becomes its command or its text in the
printer's encoding (`Token.image`), and rows are joined by line ends (`rowsImage`).  A job sets the line spacing,
feeds the top margin, prints the document, takes back the style it left open, and feeds the paper (`textJob`).
-/

namespace ThermalPress

variable [Codecs]

/-- The bytes of a token: its command, or its characters in the encoding of that name. -/
def Token.image (encoding : String) (t : Token) : Except EncodingError Bytes :=
  match styleCommand? t.kind with
  | some command => .ok command
  | none => Codecs.encode encoding t.raw

/-- The bytes of a row. -/
def rowImage (encoding : String) (row : Row) : Except EncodingError Bytes :=
  (row.mapM (Token.image encoding)).map List.flatten

/-- The bytes of rows, a line end between any two. -/
def rowsImage (encoding : String) (rows : List Row) : Except EncodingError Bytes :=
  (rows.mapM (rowImage encoding)).map (List.intercalate Command.lineEnd)

/-- The style that rows leave behind. -/
def styleAfter (style : Style) (rows : List Row) : Style := style.applyAll (rows.flatten.map (·.kind))

/-- The style that the tokens in front of the first printed text leave behind. -/
def styleBeforeText (style : Style) (rows : List Row) : Style :=
  style.applyAll ((rows.flatten.takeWhile fun t => (styleCommand? t.kind).isSome).map (·.kind))

/-- A document: text, or bytes in the encoding of the printer. -/
inductive Document where
  | text (characters : List Char)
  | encoded (bytes : Bytes)
  deriving DecidableEq, Repr

/-- The text of a document.  No bytes are no text in any encoding. -/
def Document.characters (encoding : String) : Document → Except EncodingError (List Char)
  | .text characters => .ok characters
  | .encoded bytes => if bytes.isEmpty then .ok [] else Codecs.decode encoding bytes

/-- The rows of a document before their layout. -/
def documentRows (settings : Settings) (document : Document) : Except JobError (List Row) := do
  let characters ← document.characters settings.encoding
  let tokens ← readTokens characters
  return rowsOf tokens

/-- The rows of a document, laid out for the printer's line. -/
def laidOutRows (settings : Settings) (document : Document) : Except JobError (List Row) := do
  let rows ← documentRows settings document
  return rows.map fun row => arrange row settings.lineWidth

/-- A compiled document: its bytes and the style it leaves the printer in. -/
structure Compiled where
  body : Bytes
  style : Style
  deriving DecidableEq, Repr

/-- The bytes of a document for a printer in the given style. -/
def compileFrom (settings : Settings) (style : Style) (document : Document) : Except JobError Compiled := do
  let rows ← laidOutRows settings document
  let body ← rowsImage settings.encoding rows
  return ⟨body, styleAfter style rows⟩

/-- The bytes of a document. -/
def documentBytes (settings : Settings) (document : Document) : Except JobError Bytes :=
  (compileFrom settings .plain document).map (·.body)

/-- The bytes of a text job.  Margins that are not given are those of the settings. -/
def textJob (settings : Settings) (document : Document) (topMargin bottomFeed : Option Int) :
    Except JobError Bytes := do
  let compiled ← compileFrom settings .plain document
  let spacing ← Command.lineSpacing settings.lineSpacing
  return spacing ++ Command.blankLines (topMargin.getD settings.topMarginLines) ++ compiled.body ++
    compiled.style.restore ++ Command.blankLines (bottomFeed.getD settings.autoFeedLines)

/-- The style that a document leaves a printer in, also one that cannot be compiled: without an encoding for its
text, the commands in front of the text have been sent. -/
def carriedStyle (settings : Settings) (style : Style) (document : Document) : Style :=
  match laidOutRows settings document with
  | .error _ => style
  | .ok rows =>
    match rowsImage settings.encoding rows with
    | .ok _ => styleAfter style rows
    | .error _ => styleBeforeText style rows

/-- Compiles documents for one printer, each in the style that those before it have left. -/
def compileEach (settings : Settings) : Style → List Document → List (Except JobError Compiled)
  | _, [] => []
  | style, document :: documents =>
    compileFrom settings style document :: compileEach settings (carriedStyle settings style document) documents

end ThermalPress
