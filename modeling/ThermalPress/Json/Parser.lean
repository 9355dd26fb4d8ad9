import ThermalPress.Json.Basic

/-!
# Reading JSON

The value of a JSON text (`Json.parse`).  Besides the standard it reads the words `NaN`, `Infinity` and
`-Infinity`, and of a name that an object gives twice it keeps the last value.  A text that is no value is reported
with what was expected and where (`JsonError`).

Texts are made of characters, so half of a surrogate pair that is escaped by itself is read as U+FFFD.  There is no
limit here to how deeply a value may be nested or how many digits a number may have; a framework that has such limits
looks at them by itself.
-/

namespace ThermalPress

/-- What is wrong with a JSON text. -/
inductive JsonProblem where
  | byteOrderMark
  | value
  | name
  | colon
  | comma
  | extraData
  | controlCharacter
  | escape
  | unicodeEscape
  | unterminated
  deriving DecidableEq, Repr

/-- What is said about a problem. -/
def JsonProblem.description : JsonProblem → String
  | .byteOrderMark => "Unexpected UTF-8 BOM (decode using utf-8-sig)"
  | .value => "Expecting value"
  | .name => "Expecting property name enclosed in double quotes"
  | .colon => "Expecting ':' delimiter"
  | .comma => "Expecting ',' delimiter"
  | .extraData => "Extra data"
  | .controlCharacter => "Invalid control character at"
  | .escape => "Invalid \\escape"
  | .unicodeEscape => "Invalid \\uXXXX escape"
  | .unterminated => "Unterminated string starting at"

/-- A problem and its place: the number of characters before it, and its line and column, counted from one. -/
structure JsonError where
  problem : JsonProblem
  offset : Nat
  line : Nat
  column : Nat
  deriving DecidableEq, Repr

/-- What the error says. -/
def JsonError.message (e : JsonError) : String :=
  e.problem.description ++ ": line " ++ toString e.line ++ " column " ++ toString e.column ++ " (char " ++
    toString e.offset ++ ")"

namespace Json

/-- A problem, and the text that was left where it was found. -/
private structure Stop where
  problem : JsonProblem
  left : List Char

private def stop {α : Type} (problem : JsonProblem) (left : List Char) : Except Stop α := .error ⟨problem, left⟩

private def isJsonBlank (c : Char) : Bool := c == ' ' || c == '\t' || c == '\n' || c == '\r'

private def skipBlanks (s : List Char) : List Char := s.dropWhile isJsonBlank

private def hexValue? (c : Char) : Option Nat :=
  if '0' ≤ c && c ≤ '9' then some (c.toNat - '0'.toNat)
  else if 'a' ≤ c && c ≤ 'f' then some (c.toNat - 'a'.toNat + 10)
  else if 'A' ≤ c && c ≤ 'F' then some (c.toNat - 'A'.toNat + 10)
  else none

/-- Four hexadecimal digits, which must not end the text. -/
private def takeUnit? : List Char → Option (Nat × List Char)
  | a :: b :: c :: d :: rest => do
    let a ← hexValue? a
    let b ← hexValue? b
    let c ← hexValue? c
    let d ← hexValue? d
    if rest.isEmpty then none else some (((a * 16 + b) * 16 + c) * 16 + d, rest)
  | _ => none

/-- The character of an escaped unit, which may be the first half of a pair.  A surrogate without its partner
stands for no character. -/
private def takeEscapedUnit (unit : Nat) (rest : List Char) : Except Stop (Char × List Char) :=
  if 0xD800 ≤ unit && unit < 0xDC00 then
    match rest with
    | '\\' :: 'u' :: digits =>
      if digits.length ≤ 4 then .ok ('\uFFFD', rest)
      else match takeUnit? digits with
        | some (low, after) =>
          if 0xDC00 ≤ low && low < 0xE000 then
            .ok (Char.ofNat (0x10000 + (unit - 0xD800) * 1024 + (low - 0xDC00)), after)
          else .ok ('\uFFFD', rest)
        | none => stop .unicodeEscape ('u' :: digits)
    | _ => .ok ('\uFFFD', rest)
  else .ok (if unit.isValidChar then Char.ofNat unit else '\uFFFD', rest)

private def simpleEscape? : Char → Option Char
  | '"' => some '"'
  | '\\' => some '\\'
  | '/' => some '/'
  | 'b' => some '\x08'
  | 'f' => some '\x0C'
  | 'n' => some '\n'
  | 'r' => some '\r'
  | 't' => some '\t'
  | _ => none

/-- The characters of a string up to its closing quotation mark; `opening` is the text from the opening one on. -/
private def takeString (opening : List Char) :
    (fuel : Nat) → List Char → List Char → Except Stop (String × List Char)
  | 0, _, _ => stop .unterminated opening
  | _ + 1, _, [] => stop .unterminated opening
  | fuel + 1, found, c :: rest =>
    if c == '"' then .ok (String.ofList found.reverse, rest)
    else if c == '\\' then
      match rest with
      | [] => stop .unterminated opening
      | 'u' :: digits =>
        match takeUnit? digits with
        | none => stop .unicodeEscape rest
        | some (unit, after) => do
          let (character, after) ← takeEscapedUnit unit after
          takeString opening fuel (character :: found) after
      | e :: after =>
        match simpleEscape? e with
        | some character => takeString opening fuel (character :: found) after
        | none => stop .escape (c :: rest)
    else if c.toNat < 0x20 then stop .controlCharacter (c :: rest)
    else takeString opening fuel (c :: found) rest

private def isJsonDigit (c : Char) : Bool := '0' ≤ c && c ≤ '9'

private def digitsValue (s : List Char) : Nat := s.foldl (fun n c => n * 10 + (c.toNat - '0'.toNat)) 0

/-- The digits of a whole number: a zero, or any that start with another digit. -/
private def takeWhole? : List Char → Option (List Char × List Char)
  | '0' :: rest => some (['0'], rest)
  | c :: rest => if isJsonDigit c then some (c :: rest.takeWhile isJsonDigit, rest.dropWhile isJsonDigit) else none
  | [] => none

/-- The digits behind a decimal point, if there are any. -/
private def takePlaces : List Char → List Char × List Char
  | '.' :: d :: rest =>
    if isJsonDigit d then (d :: rest.takeWhile isJsonDigit, rest.dropWhile isJsonDigit) else ([], '.' :: d :: rest)
  | s => ([], s)

/-- The power of ten behind a number, if there is one. -/
private def takePower (s : List Char) : Option Int × List Char :=
  match s with
  | e :: rest =>
    if e == 'e' || e == 'E' then
      let (negative, digits) := match rest with
        | '-' :: digits => (true, digits)
        | '+' :: digits => (false, digits)
        | digits => (false, digits)
      let found := digits.takeWhile isJsonDigit
      if found.isEmpty then (none, s)
      else
        let power := (digitsValue found : Int)
        (some (if negative then -power else power), digits.dropWhile isJsonDigit)
    else (none, s)
  | [] => (none, s)

/-- A number after its sign. -/
private def takeNumber? (negative : Bool) (s : List Char) : Option (Json × List Char) := do
  let (whole, rest) ← takeWhole? s
  let (places, rest) := takePlaces rest
  let (power, rest) := takePower rest
  if places.isEmpty && power.isNone then
    let n := (digitsValue whole : Int)
    return (.int (if negative then -n else n), rest)
  else
    return (.real (Binary64.ofDecimal negative (digitsValue (whole ++ places)) (power.getD 0 - places.length)), rest)

/-- Takes a word that stands for a value. -/
private def takeKeyword? (word : String) (value : Json) (s : List Char) : Option (Json × List Char) :=
  if word.toList.isPrefixOf s then some (value, s.drop word.length) else none

/-- A value that is neither a string, an array nor an object. -/
private def takeScalar? (s : List Char) : Option (Json × List Char) :=
  (takeKeyword? "null" .null s).or <| (takeKeyword? "true" (.bool true) s).or <|
    (takeKeyword? "false" (.bool false) s).or <| (takeKeyword? "NaN" (.real .notNumber) s).or <|
    (takeKeyword? "Infinity" (.real (.infinite false)) s).or <|
    (takeKeyword? "-Infinity" (.real (.infinite true)) s).or <|
    match s with
    | '-' :: rest => takeNumber? true rest
    | _ => takeNumber? false s

mutual

/-- A value, without blanks in front. -/
private def takeValue : (fuel : Nat) → List Char → Except Stop (Json × List Char)
  | 0, s => stop .value s
  | fuel + 1, s =>
    match s with
    | '"' :: rest => do
      let (text, rest) ← takeString s (rest.length + 1) [] rest
      return (.str text, rest)
    | '[' :: rest =>
      match skipBlanks rest with
      | ']' :: rest => .ok (.arr [], rest)
      | rest => do
        let (items, rest) ← takeItems fuel rest
        return (.arr items, rest)
    | '\x7b' :: rest =>
      match skipBlanks rest with
      | '\x7d' :: rest => .ok (.obj [], rest)
      | rest => do
        let (members, rest) ← takeMembers fuel rest
        return (ofMembers members, rest)
    | s => match takeScalar? s with
      | some found => .ok found
      | none => stop .value s

/-- The items of an array up to its closing bracket. -/
private def takeItems : (fuel : Nat) → List Char → Except Stop (List Json × List Char)
  | 0, s => stop .value s
  | fuel + 1, s => do
    let (item, rest) ← takeValue fuel s
    match skipBlanks rest with
    | ']' :: rest => return ([item], rest)
    | ',' :: rest =>
      let (items, rest) ← takeItems fuel (skipBlanks rest)
      return (item :: items, rest)
    | rest => stop .comma rest

/-- The members of an object up to its closing brace. -/
private def takeMembers : (fuel : Nat) → List Char → Except Stop (List (String × Json) × List Char)
  | 0, s => stop .name s
  | fuel + 1, s =>
    match s with
    | '"' :: rest => do
      let (name, rest) ← takeString s (rest.length + 1) [] rest
      match skipBlanks rest with
      | ':' :: rest =>
        let (value, rest) ← takeValue fuel (skipBlanks rest)
        match skipBlanks rest with
        | '\x7d' :: rest => return ([(name, value)], rest)
        | ',' :: rest =>
          let (members, rest) ← takeMembers fuel (skipBlanks rest)
          return ((name, value) :: members, rest)
        | rest => stop .comma rest
      | rest => stop .colon rest
    | s => stop .name s

end

/-- The place in a text of what is left of it. -/
private def placed (s : List Char) (found : Stop) : JsonError :=
  let before := s.take (s.length - found.left.length)
  let lineStart := before.reverse.takeWhile (· ≠ '\n')
  ⟨found.problem, before.length, before.count '\n' + 1, lineStart.length + 1⟩

/-- The value of a text. -/
def parse (s : List Char) : Except JsonError Json :=
  match s with
  | '\uFEFF' :: _ => .error ⟨.byteOrderMark, 0, 1, 1⟩
  | _ =>
    match takeValue (s.length + 1) (skipBlanks s) with
    | .error found => .error (placed s found)
    | .ok (value, rest) =>
      match skipBlanks rest with
      | [] => .ok value
      | rest => .error (placed s ⟨.extraData, rest⟩)

end Json

end ThermalPress
