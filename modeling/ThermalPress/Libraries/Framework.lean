import ThermalPress.Http.Percent
import ThermalPress.Http.Request
import ThermalPress.Json.Parser
import ThermalPress.Libraries.Multipart
import ThermalPress.Text.Casing
import ThermalPress.Text.Pieces
import ThermalPress.Text.Utf16

/-!
# The framework of one system

A framework to run the program with.  What a body holds depends on its media type (`kindOf`).  JSON may come in any of
the Unicode encodings, which is read off its first bytes; plain text is always UTF-8.  Reading the fields of a form uses
up the body, so that no text is left of it.  Forms may be so large (`formLimits`), and values nested so deeply
(`depthLimit`).  Nothing else in the library depends on how this framework reads.
-/

namespace ThermalPress.Libraries

/-! ### Coded forms

Queries and one kind of request body write fields as `name=text`, with `&` between them. -/

/-- The text that a coded name or text of a field stands for. -/
def decodeText (s : List Char) : String :=
  String.ofList (Percent.text (s.map fun c => if c = '+' then ' ' else c))

/-- The field that a piece of a query stands for. -/
def fieldOf (piece : List Char) : FormField :=
  ⟨some (decodeText (piece.takeWhile (· != '='))), decodeText ((piece.dropWhile (· != '=')).tail)⟩

/-- The fields of a query.  Empty pieces are no fields. -/
def ofQuery (query : List Char) : Form := ((pieces '&' query).filter (· != [])).map fieldOf

/-- The fields of a request body that is written as a query; a body that is no text has none. -/
def ofCodedBody (body : Bytes) : Form := ((Utf8.decode? body).map ofQuery).getD []

/-! ### JSON texts -/

/-- A Unicode encoding of JSON texts. -/
private inductive UnicodeForm where
  | utf8
  | utf16 (order : ByteOrder)
  | utf32 (order : ByteOrder)

/-- The encoding of a JSON text without a byte order mark.  Its first two characters are ASCII characters, so the
zero bytes among the first four show how wide a character is and which of its bytes comes first. -/
private def formOf (bytes : Bytes) : UnicodeForm :=
  match bytes with
  | a :: b :: c :: d :: _ =>
    if a = 0 then (if b = 0 then .utf32 .big else .utf16 .big)
    else if b = 0 then (if c = 0 && d = 0 then .utf32 .little else .utf16 .little)
    else .utf8
  | [a, b] => if a = 0 then .utf16 .big else if b = 0 then .utf16 .little else .utf8
  | _ => .utf8

/-- The encoding of a JSON text, and the bytes without a byte order mark. -/
private def splitForm (bytes : Bytes) : UnicodeForm × Bytes :=
  match bytes with
  -- the marks of four bytes come first: two of them begin like a mark of two bytes
  | 0x00 :: 0x00 :: 0xFE :: 0xFF :: rest => (.utf32 .big, rest)
  | 0xFF :: 0xFE :: 0x00 :: 0x00 :: rest => (.utf32 .little, rest)
  | 0xFE :: 0xFF :: rest => (.utf16 .big, rest)
  | 0xFF :: 0xFE :: rest => (.utf16 .little, rest)
  | 0xEF :: 0xBB :: 0xBF :: rest => (.utf8, rest)
  | bytes => (formOf bytes, bytes)

/-- The depth to which values may be nested. -/
def depthLimit : Nat := 1000

/-- Whether the brackets of a text are nested deeper than the limit somewhere.  Those in strings do not count. -/
def nestedTooDeeply : (depth : Nat) → (inString : Bool) → List Char → Bool
  | _, _, [] => false
  | depth, true, '\\' :: _ :: rest => nestedTooDeeply depth true rest
  | depth, true, c :: rest => nestedTooDeeply depth (c != '"') rest
  | depth, false, c :: rest =>
    if c == '[' || c == '\x7b' then depthLimit ≤ depth || nestedTooDeeply (depth + 1) false rest
    else if c == ']' || c == '\x7d' then nestedTooDeeply (depth - 1) false rest
    else nestedTooDeeply depth (c == '"') rest

/-- The value of a JSON text in one of the Unicode encodings, or the status of the answer to one that is nested too
deeply. -/
def jsonOfBytes? (bytes : Bytes) : Except Nat (Option Json) :=
  let (form, bytes) := splitForm bytes
  let text? := match form with
    | .utf8 => Utf8.decode? bytes
    | .utf16 order => (Utf16.chars order bytes).mapM id
    | .utf32 order => Utf32.decode? order bytes
  match text? with
  | none => .ok none
  | some text => if nestedTooDeeply 0 false text then .error 500 else .ok (Json.parse text).toOption

/-- What a body holds, by its media type. -/
inductive MediaKind where
  | json
  | codedForm
  | partsForm (boundary : Bytes)
  | other
  deriving DecidableEq, Repr

/-- The content type and its parameters. -/
private def contentHeader (request : Request) : HeaderValue := HeaderValue.ofText (request.contentType.getD "").toList

private def isJsonType (name : String) : Bool :=
  name == "application/json" || ("application/".isPrefixOf name && name.endsWith "+json")

/-- What the body holds. -/
def kindOf (request : Request) : MediaKind :=
  let header := contentHeader request
  let name := String.ofList (lower header.value)
  if isJsonType name then .json
  else if name == "application/x-www-form-urlencoded" then .codedForm
  else if name == "multipart/form-data" then
    let boundary := (header.parameter? "boundary").getD []
    if boundary.isEmpty || boundary.any (128 ≤ ·.toNat) then .other else .partsForm (Utf8.encode boundary)
  else .other

/-- How large forms may be. -/
def formLimits : FormLimits := ⟨500000, 1000⟩

/-- Whether a body is longer than a limit.  The length of an empty one counts only where a form is expected. -/
def exceeds (request : Request) (limit : Option Int) : Bool :=
  match limit with
  | none => false
  | some n => n < request.body.length && (!request.body.isEmpty || kindOf request == .codedForm)

/-- The JSON value of a body. -/
def jsonBody? (request : Request) : Except Nat (Option Json) :=
  match kindOf request with
  | .json => jsonOfBytes? request.body
  | _ => .ok none

/-- The fields of the form in a body.  A malformed form has none. -/
def formBody (request : Request) : Except Nat Form :=
  match kindOf request with
  | .codedForm => if formLimits.text < request.body.length then .error 413 else .ok (ofCodedBody request.body)
  | .partsForm boundary =>
    match Multipart.read formLimits boundary request.body with
    | .ok form => .ok form
    | .error .malformed => .ok []
    | .error .tooLarge => .error 413
  | _ => .ok []

/-- A body as plain text. -/
def textBody (request : Request) : List Char :=
  match kindOf request with
  | .codedForm | .partsForm _ => []
  | _ => Utf8.decodeLossy request.body

/-- A value that has been read is not nested too deeply to be written. -/
scoped instance framework : Framework where
  exceeds := exceeds
  isJson request := kindOf request == .json
  json? := jsonBody?
  form := formBody
  text request := .ok (textBody request)
  query request := ofQuery request.target.query
  writes _ := true
  writes_texts _ _ := rfl

end ThermalPress.Libraries
