import ThermalPress.Text.Quoted
import ThermalPress.Text.Utf8

/-!
# Code points

A text that comes from elsewhere may hold half of a surrogate pair without the other half (`CodePoint`).  That is no
character, and a text with one has no bytes in UTF-8 (`Utf8.encodeStrict`).
-/

namespace ThermalPress

/-- What a text consists of. -/
inductive CodePoint where
  | char (c : Char)
  /-- Half of a surrogate pair by itself, by its distance from the first one. -/
  | surrogate (n : Fin 0x800)
  deriving DecidableEq, Repr

namespace CodePoint

def isSurrogate : CodePoint → Bool
  | char _ => false
  | surrogate _ => true

def char? : CodePoint → Option Char
  | char c => some c
  | surrogate _ => none

/-- A text of nothing but characters. -/
def ofChars (s : List Char) : List CodePoint := s.map char

end CodePoint

/-- Why a text has no bytes: where the first halves of surrogate pairs stand in it, and which they are. -/
structure SurrogateError where
  start : Nat
  run : List CodePoint
  deriving DecidableEq, Repr

/-- What the error says. -/
def SurrogateError.message (e : SurrogateError) : String :=
  let what := match e.run with
    | [.surrogate n] =>
      "character '\\u" ++ String.ofList (hexDigits 4 (0xD800 + n.val)) ++ "' in position " ++ toString e.start
    | run => "characters in position " ++ toString e.start ++ "-" ++ toString (e.start + run.length - 1)
  "'utf-8' codec can't encode " ++ what ++ ": surrogates not allowed"

/-- The bytes of a text, if it has no surrogates. -/
def Utf8.encodeStrict (s : List CodePoint) : Except SurrogateError Bytes :=
  match s.mapM CodePoint.char? with
  | some characters => .ok (encode characters)
  | none =>
    let start := s.findIdx CodePoint.isSurrogate
    .error ⟨start, (s.drop start).takeWhile CodePoint.isSurrogate⟩

end ThermalPress
