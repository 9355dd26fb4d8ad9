import ThermalPress.Text.Quoted
import ThermalPress.Text.Utf8

/-!
# Codecs by name

Text is written and read with a codec that is chosen by its name.  Which codecs there are, and what they do with a
text, is up to the system (`Codecs`).  A known codec need not be one of text, and one of text may still refuse some
texts with an error of its own.
-/

namespace ThermalPress

/-- Why text could not be encoded or decoded under a name. -/
inductive EncodingError where
  | unknown (name : String)
  | nullInName
  | notText (name : String) (decoding : Bool)
  /-- The codec itself fails. -/
  | failed (kind text : String)
  deriving DecidableEq, Repr

/-- What the error says. -/
def EncodingError.message : EncodingError → String
  | .unknown name => "unknown encoding: " ++ name
  | .nullInName => "embedded null character"
  | .notText name decoding =>
    quotedString name ++ " is not a text encoding; use codecs." ++ (if decoding then "decode" else "encode") ++
      "() to handle arbitrary codecs"
  | .failed _ text => text

/-- The codecs of the system, by their names. -/
class Codecs where
  /-- Looks for a codec of that name. -/
  lookup : (name : String) → Except EncodingError Unit
  /-- The bytes of a text; what the codec has no bytes for is replaced. -/
  encode : (name : String) → List Char → Except EncodingError Bytes
  /-- The text of bytes; what is ill formed is replaced. -/
  decode : (name : String) → Bytes → Except EncodingError (List Char)

end ThermalPress
