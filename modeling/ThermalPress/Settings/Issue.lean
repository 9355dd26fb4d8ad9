import ThermalPress.Text.Codecs

/-!
# What is wrong with a value

A value that does not fit its field is reported with the field and an `Issue`, which has a short code and a message.
Reading a whole or a binary number from a value allows what stands for one: truth values, numbers of the other kind
without a loss, and texts.
-/

namespace ThermalPress

/-- Why a value does not fit. -/
inductive Issue where
  | wholeType
  | wholeParsing
  | wholeFromFraction
  | wholeSize
  | finite
  | realType
  | realParsing
  | stringType
  | tooShort
  | notPositive
  | atLeast (least : Int)
  | atMost (most : Int)
  | unlisted (choices : List String)
  | refused (reason : String)
  | missing
  | frozen
  | notAnObject (what : String)
  /-- A value without a name. -/
  | unnamed
  deriving DecidableEq, Repr

namespace Issue

/-- The code of an issue. -/
def code : Issue → String
  | .wholeType => "int_type"
  | .wholeParsing => "int_parsing"
  | .wholeFromFraction => "int_from_float"
  | .wholeSize => "int_parsing_size"
  | .finite => "finite_number"
  | .realType => "float_type"
  | .realParsing => "float_parsing"
  | .stringType => "string_type"
  | .tooShort => "string_too_short"
  | .notPositive => "greater_than"
  | .atLeast _ => "greater_than_equal"
  | .atMost _ => "less_than_equal"
  | .unlisted _ => "literal_error"
  | .refused _ => "value_error"
  | .missing => "missing"
  | .frozen => "frozen_instance"
  | .notAnObject _ => "model_type"
  | .unnamed => "invalid_key"

/-- Quoted texts, with commas between them and a word before the last one. -/
private def alternatives : List String → String
  | [] => ""
  | [a] => "'" ++ a ++ "'"
  | [a, b] => "'" ++ a ++ "' or '" ++ b ++ "'"
  | a :: rest => "'" ++ a ++ "', " ++ alternatives rest

/-- What the issue says. -/
def message : Issue → String
  | .wholeType => "Input should be a valid integer"
  | .wholeParsing => "Input should be a valid integer, unable to parse string as an integer"
  | .wholeFromFraction => "Input should be a valid integer, got a number with a fractional part"
  | .wholeSize => "Unable to parse input string as an integer, exceeded maximum size"
  | .finite => "Input should be a finite number"
  | .realType => "Input should be a valid number"
  | .realParsing => "Input should be a valid number, unable to parse string as a number"
  | .stringType => "Input should be a valid string"
  | .tooShort => "String should have at least 1 character"
  | .notPositive => "Input should be greater than 0"
  | .atLeast least => "Input should be greater than or equal to " ++ toString least
  | .atMost most => "Input should be less than or equal to " ++ toString most
  | .unlisted choices => "Input should be " ++ alternatives choices
  | .refused reason => "Value error, " ++ reason
  | .missing => "Field required"
  | .frozen => "Instance is frozen"
  | .notAnObject what => "Input should be a valid dictionary or instance of " ++ what
  | .unnamed => "Keys should be strings"

end Issue

/-- An issue with the field it was found in, if it was found in one. -/
structure FieldIssue where
  field : Option String
  issue : Issue
  deriving DecidableEq, Repr

end ThermalPress
