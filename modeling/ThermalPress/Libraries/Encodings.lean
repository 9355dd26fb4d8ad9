import ThermalPress.Text.CodePage
import ThermalPress.Text.Codecs
import ThermalPress.Text.Utf16

/-!
# The codecs of one system

Codecs to run the program with: those of a system that knows the encodings below.  Names are compared without regard
to case and to the punctuation between their parts (`Encoding.key`), and most encodings have several.  A few names
belong to transformations of bytes: they are known names, but no text can be encoded with them.  Nothing else in the
library depends on which encodings these are.
-/

namespace ThermalPress.Libraries

/-- What a named encoding does. -/
inductive Encoding where
  | page (table : CodePage)
  | utf8
  | utf8Signed
  | utf16
  | utf16Ordered (order : ByteOrder)
  /-- A transformation of bytes into bytes or of text into text. -/
  | transformation
  deriving DecidableEq, Repr

namespace Encoding

private def isKeyChar (c : Char) : Bool := c.isAlphanum || c == '.'

private def keyFrom : (gap started : Bool) → List Char → List Char
  | _, _, [] => []
  | gap, started, c :: rest =>
    if isKeyChar c then (if gap && started then ['_', c.toLower] else [c.toLower]) ++ keyFrom false true rest
    else keyFrom true started rest

/-- The name in small letters, with one underscore for what stands between its parts. -/
def key (name : String) : String := String.ofList (keyFrom false false name.toList)

/-- The keys of the encodings, each after the encoding that it names. -/
private def namesOf : List (Encoding × List String) := [
  (.page .ascii, ["ascii", "646", "ansi_x3.4_1968", "ansi_x3.4_1986", "ansi_x3_4_1968", "cp367", "csascii",
    "ibm367", "iso646_us", "iso_646.irv_1991", "iso_646_irv_1991", "iso_ir_6", "us", "us_ascii"]),
  (.page .latin1, ["latin_1", "8859", "cp819", "csisolatin1", "ibm819", "iso8859", "iso8859_1", "iso_8859_1",
    "iso_8859_1_1987", "iso_ir_100", "l1", "latin", "latin1"]),
  (.page .latin9, ["iso8859_15", "iso_8859_15", "l9", "latin9"]),
  (.page .windows1252, ["cp1252", "1252", "windows_1252"]),
  (.page .ibm437, ["cp437", "437", "cspc8codepage437", "ibm437"]),
  (.page .ibm850, ["cp850", "850", "cspc850multilingual", "ibm850"]),
  (.page .ibm852, ["cp852", "852", "cspcp852", "ibm852"]),
  (.page .ibm858, ["cp858", "858", "csibm858", "ibm858"]),
  (.page .ibm866, ["cp866", "866", "csibm866", "ibm866"]),
  (.utf8, ["utf_8", "cp65001", "u8", "utf", "utf8", "utf8_ucs2", "utf8_ucs4"]),
  (.utf8Signed, ["utf_8_sig"]),
  (.utf16, ["utf_16", "u16", "utf16"]),
  (.utf16Ordered .little, ["utf_16_le", "unicodelittleunmarked", "utf_16le"]),
  (.utf16Ordered .big, ["utf_16_be", "unicodebigunmarked", "utf_16be"]),
  (.transformation, ["hex_codec", "hex", "base64_codec", "base64", "base_64", "rot_13", "rot13", "zlib_codec", "zip",
    "zlib", "bz2_codec", "bz2", "quopri_codec", "quopri", "quoted_printable", "quotedprintable", "uu_codec", "uu"])]

/-- The encoding of that name. -/
def named (name : String) : Except EncodingError Encoding :=
  if name.toList.contains '\x00' then .error .nullInName
  else match namesOf.find? fun (_, keys) => keys.contains (key name) with
    | some (encoding, _) => .ok encoding
    | none => .error (.unknown name)

/-- The bytes of a text, or nothing for a transformation.  Each text is encoded on its own, so an encoding that
marks its byte order marks every one. -/
def encodeText? : Encoding → List Char → Option Bytes
  | .page table, s => some (table.encode s)
  | .utf8, s => some (Utf8.encode s)
  | .utf8Signed, s => some (Utf8.byteOrderMark ++ Utf8.encode s)
  | .utf16, s => some (Utf16.encodeMarked s)
  | .utf16Ordered order, s => some (Utf16.encode order s)
  | .transformation, _ => none

/-- The text of a byte string with what is ill formed replaced, or nothing for a transformation. -/
def decodeText? : Encoding → Bytes → Option (List Char)
  | .page table, bytes => some (table.decode bytes)
  | .utf8, bytes => some (Utf8.decodeLossy bytes)
  | .utf8Signed, bytes => some (Utf8.decodeLossy (Utf8.dropByteOrderMark bytes))
  | .utf16, bytes => some (Utf16.decodeMarked bytes)
  | .utf16Ordered order, bytes => some (Utf16.decodeLossy order bytes)
  | .transformation, _ => none

end Encoding

scoped instance codecs : Codecs where
  lookup name := (Encoding.named name).map fun _ => ()
  encode name s := do
    match (← Encoding.named name).encodeText? s with
    | some bytes => .ok bytes
    | none => .error (.notText name false)
  decode name bytes := do
    match (← Encoding.named name).decodeText? bytes with
    | some s => .ok s
    | none => .error (.notText name true)

end ThermalPress.Libraries
