import ThermalPress.Json.Basic
import ThermalPress.Text.Utf16

/-!
# Writing JSON

The text of a JSON value, on one line or indented.  Quotation marks, backslashes and control characters are
escaped; in the ASCII form so is every other character outside ASCII, in units of sixteen bits.
-/

namespace ThermalPress

namespace Json

/-- How the text of a value is laid out. -/
structure TextForm where
  /-- Whether characters outside ASCII are escaped. -/
  ascii : Bool
  /-- The number of blanks for each level, if the text is indented. -/
  indent : Option Nat

/-- One line, all characters but control characters as they are. -/
def plainForm : TextForm := ⟨false, none⟩

/-- One line of ASCII characters. -/
def asciiForm : TextForm := ⟨true, none⟩

/-- Indented by two, in ASCII characters. -/
def fileForm : TextForm := ⟨true, some 2⟩

private def escapeUnit (n : Nat) : List Char :=
  let digits := Nat.toDigits 16 n
  '\\' :: 'u' :: (List.replicate (4 - digits.length) '0' ++ digits)

private def escapeChar (ascii : Bool) (c : Char) : List Char :=
  if c == '"' || c == '\\' then ['\\', c]
  else if c == '\n' then ['\\', 'n']
  else if c == '\r' then ['\\', 'r']
  else if c == '\t' then ['\\', 't']
  else if c == '\x08' then ['\\', 'b']
  else if c == '\x0C' then ['\\', 'f']
  else if c.toNat < 0x20 then escapeUnit c.toNat
  else if ascii && 0x7E < c.toNat then (Utf16.units c).flatMap escapeUnit
  else [c]

/-- A text between quotation marks. -/
def stringText (ascii : Bool) (s : String) : List Char :=
  '"' :: (s.toList.flatMap (escapeChar ascii) ++ ['"'])

/-- The text of a binary number; the numbers that JSON lacks are written as words. -/
def realText : Binary64 → List Char
  | .notNumber => "NaN".toList
  | .infinite false => "Infinity".toList
  | .infinite true => "-Infinity".toList
  | x => x.shortest

/-- The line break and blanks in front of an item at some depth. -/
private def lineStart (form : TextForm) (depth : Nat) : List Char :=
  form.indent.elim [] fun width => '\n' :: List.replicate (width * depth) ' '

/-- What stands between two items. -/
private def separator (form : TextForm) (depth : Nat) : List Char :=
  ',' :: (form.indent.elim [' '] fun _ => lineStart form depth)

mutual

/-- The text of a value at some depth. -/
def textAt (form : TextForm) (depth : Nat) : Json → List Char
  | .null => "null".toList
  | .bool b => (if b then "true" else "false").toList
  | .int n => integerText n
  | .real x => realText x
  | .str s => stringText form.ascii s
  | .arr [] => ['[', ']']
  | .arr (item :: items) =>
    '[' :: (lineStart form (depth + 1) ++ textAt form (depth + 1) item ++ itemsText form (depth + 1) items ++
      lineStart form depth ++ [']'])
  | .obj [] => ['\x7b', '\x7d']
  | .obj ((name, value) :: members) =>
    '\x7b' :: (lineStart form (depth + 1) ++ stringText form.ascii name ++ ':' :: ' ' ::
      textAt form (depth + 1) value ++ membersText form (depth + 1) members ++ lineStart form depth ++ ['\x7d'])

/-- The text of further items of an array. -/
def itemsText (form : TextForm) (depth : Nat) : List Json → List Char
  | [] => []
  | item :: items => separator form depth ++ textAt form depth item ++ itemsText form depth items

/-- The text of further members of an object. -/
def membersText (form : TextForm) (depth : Nat) : List (String × Json) → List Char
  | [] => []
  | (name, value) :: members =>
    separator form depth ++ stringText form.ascii name ++ ':' :: ' ' :: textAt form depth value ++
      membersText form depth members

end

/-- The text of a value. -/
def text (form : TextForm) (value : Json) : List Char := textAt form 0 value

end Json

end ThermalPress
