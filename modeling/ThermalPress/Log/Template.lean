import ThermalPress.Json.Display
import ThermalPress.Number.Decimal

/-!
# Message templates

The text of a message with values in it (`Template.fill`).  A template is characters and conversions (`Piece`): a
percent sign, then a name between parentheses, flags, a width and a number of places, all of which may be missing, and
a letter.  The values are taken one after another, and all of them must be used, unless they have names.
-/

namespace ThermalPress

/-- Why a template cannot be filled. -/
inductive TemplateError where
  | tooFewValues
  | tooManyValues
  | noNames
  | missingName (name : String)
  /-- The letter needs a number. -/
  | notNumber (letter : Char) (kind : String)
  /-- The letter needs a whole number. -/
  | notWhole (letter : Char) (kind : String)
  /-- The value is not a binary number. -/
  | notReal (kind : String)
  | notFinite (what : String)
  | widthNotWhole
  | unknownLetter (letter : Char) (position : Nat)
  | incomplete
  | incompleteName
  deriving DecidableEq, Repr

private def hexText (n : Nat) : String := String.ofList (Nat.toDigits 16 n)

/-- What the error says. -/
def TemplateError.message : TemplateError → String
  | .tooFewValues => "not enough arguments for format string"
  | .tooManyValues => "not all arguments converted during string formatting"
  | .noNames => "format requires a mapping"
  | .missingName name => quotedString name
  | .notNumber letter kind =>
    "%" ++ String.singleton letter ++ " format: a real number is required, not " ++ kind
  | .notWhole letter kind => "%" ++ String.singleton letter ++ " format: an integer is required, not " ++ kind
  | .notReal kind => "must be real number, not " ++ kind
  | .notFinite what => "cannot convert float " ++ what ++ " to integer"
  | .widthNotWhole => "* wants int"
  | .unknownLetter letter position =>
    let shown := if 0x20 ≤ letter.toNat && letter.toNat < 0x7F then letter else '?'
    "unsupported format character '" ++ String.singleton shown ++ "' (0x" ++ hexText letter.toNat ++ ") at index " ++
      toString position
  | .incomplete => "incomplete format"
  | .incompleteName => "incomplete format key"

/-- A width or a number of places. -/
inductive Extent where
  | unsaid
  | fixed (n : Nat)
  /-- The next value says it. -/
  | given
  deriving DecidableEq, Repr

/-- How a value is written. -/
structure Conversion where
  name : Option (List Char)
  flags : List Char
  width : Extent
  places : Extent
  letter : Char
  /-- The position of the letter in the template. -/
  position : Nat
  deriving DecidableEq, Repr

/-- A part of a template. -/
inductive Piece where
  | char (c : Char)
  | conversion (conversion : Conversion)
  | broken (e : TemplateError)
  deriving DecidableEq, Repr

/-- The values for a template that are not used yet, and the names that values have. -/
structure Supply where
  left : List Json
  names : Option (Members Json)

namespace Template

/-- A name that goes on up to the closing parenthesis, and what comes after it. -/
private def takeName? : (depth : Nat) → List Char → Option (List Char × List Char)
  | _, [] => none
  | depth, '(' :: rest => (takeName? (depth + 1) rest).map fun (name, left) => ('(' :: name, left)
  | 0, ')' :: rest => some ([], rest)
  | depth + 1, ')' :: rest => (takeName? depth rest).map fun (name, left) => (')' :: name, left)
  | depth, c :: rest => (takeName? depth rest).map fun (name, left) => (c :: name, left)

private def isFlag (c : Char) : Bool := "-+ #0".contains c

private def takeExtent : List Char → Extent × List Char
  | '*' :: rest => (.given, rest)
  | s =>
    let digits := s.takeWhile Char.isDigit
    if digits.isEmpty then (.unsaid, s)
    else (.fixed (digits.foldl (fun n c => n * 10 + (c.toNat - '0'.toNat)) 0), s.drop digits.length)

private def takePlaces : List Char → Extent × List Char
  | '.' :: rest =>
    match takeExtent rest with
    | (.unsaid, rest) => (.fixed 0, rest)
    | found => found
  | s => (.unsaid, s)

private def dropSizeLetter : List Char → List Char
  | c :: rest => if c == 'h' || c == 'l' || c == 'L' then rest else c :: rest
  | [] => []

/-- The conversion that begins after a percent sign, and what comes after it; `length` is the length of the whole
template. -/
private def takeConversion (length : Nat) (s : List Char) : Piece × List Char :=
  let named : Option (Option (List Char) × List Char) := match s with
    | '(' :: rest => (takeName? 0 rest).map fun (name, left) => (some name, left)
    | s => some (none, s)
  match named with
  | none => (.broken .incompleteName, [])
  | some (name, s) =>
    let flags := s.takeWhile isFlag
    let (width, s) := takeExtent (s.drop flags.length)
    let (places, s) := takePlaces s
    match dropSizeLetter s with
    | [] => (.broken .incomplete, [])
    | letter :: rest => (.conversion ⟨name, flags, width, places, letter, length - rest.length - 1⟩, rest)

/-- The pieces of a template; `fuel` is the number of characters that are looked at. -/
private def piecesFrom (length : Nat) : (fuel : Nat) → List Char → List Piece
  | 0, _ | _, [] => []
  | fuel + 1, '%' :: rest =>
    let (piece, rest) := takeConversion length rest
    piece :: piecesFrom length fuel rest
  | fuel + 1, c :: rest => .char c :: piecesFrom length fuel rest

/-- The pieces of a template. -/
def pieces (template : List Char) : List Piece := piecesFrom template.length template.length template

/-- The next value. -/
private def Supply.take (supply : Supply) : Except TemplateError (Json × Supply) :=
  match supply.left with
  | value :: left => .ok (value, { supply with left })
  | [] => .error .tooFewValues

/-- The number that an extent says; a negative width counts from the other side. -/
private def extentOf (supply : Supply) : Extent → Except TemplateError (Option Int × Supply)
  | .unsaid => .ok (none, supply)
  | .fixed n => .ok (some n, supply)
  | .given => do
    match ← Supply.take supply with
    | (.int n, supply) => return (some n, supply)
    | (.bool b, supply) => return (some (if b then 1 else 0), supply)
    | _ => .error .widthNotWhole

/-- A number by its sign, the mark of its base and its digits. -/
private structure NumberText where
  negative : Bool
  mark : List Char
  digits : List Char

/-- A value as a whole number for a letter that allows numbers of both kinds. -/
private def wholeOf (letter : Char) : Json → Except TemplateError Int
  | .int n => .ok n
  | .bool b => .ok (if b then 1 else 0)
  | .real x =>
    match x with
    | .notNumber => .error (.notFinite "NaN")
    | .infinite _ => .error (.notFinite "infinity")
    | x => .ok (x.truncate?.getD 0)
  | value => .error (.notNumber letter value.kindName)

/-- A value as a whole number for a letter that allows nothing else. -/
private def exactWholeOf (letter : Char) : Json → Except TemplateError Int
  | .int n => .ok n
  | .bool b => .ok (if b then 1 else 0)
  | value => .error (.notWhole letter value.kindName)

private def realOf : Json → Except TemplateError Binary64
  | .int n => .ok (Binary64.ofInt n)
  | .bool b => .ok (Binary64.ofInt (if b then 1 else 0))
  | .real x => .ok x
  | value => .error (.notReal value.kindName)

private def wholeText (base : Nat) (mark : String) (places : Option Int) (n : Int) : NumberText :=
  let digits := Nat.toDigits base n.natAbs
  let least := (places.getD 0).toNat
  ⟨n < 0, mark.toList, List.replicate (least - digits.length) '0' ++ digits⟩

private def realText (s : List Char) : NumberText :=
  match s with
  | '-' :: digits => ⟨true, [], digits⟩
  | digits => ⟨false, [], digits⟩

private def upperCase (text : NumberText) : NumberText :=
  { text with mark := text.mark.map Char.toUpper, digits := text.digits.map Char.toUpper }

/-- The text of a number for a letter, if it is one for numbers. -/
private def numberText? (letter : Char) (alternate : Bool) (places : Option Int) (value : Json) :
    Except TemplateError (Option NumberText) :=
  let mark (s : String) : String := if alternate then s else ""
  let count : Nat := (places.getD 6).toNat
  match letter with
  | 'd' | 'i' | 'u' => do return some (wholeText 10 "" places (← wholeOf letter value))
  | 'o' => do return some (wholeText 8 (mark "0o") places (← exactWholeOf letter value))
  | 'x' => do return some (wholeText 16 (mark "0x") places (← exactWholeOf letter value))
  | 'X' => do return some (upperCase (wholeText 16 (mark "0x") places (← exactWholeOf letter value)))
  | 'f' => do return some (realText ((← realOf value).fixed count))
  | 'F' => do return some (upperCase (realText ((← realOf value).fixed count)))
  | 'e' => do return some (realText ((← realOf value).scientific count))
  | 'E' => do return some (upperCase (realText ((← realOf value).scientific count)))
  | 'g' => do return some (realText ((← realOf value).general count))
  | 'G' => do return some (upperCase (realText ((← realOf value).general count)))
  | _ => .ok none

/-- A number with its sign, filled up to the width with zeros where a flag says so. -/
private def signedText (flags : List Char) (width : Nat) (text : NumberText) : List Char :=
  let sign :=
    if text.negative then ['-'] else if flags.contains '+' then ['+'] else if flags.contains ' ' then [' '] else []
  let front := sign ++ text.mark
  let zeros := if flags.contains '0' && !flags.contains '-' then width - front.length - text.digits.length else 0
  front ++ List.replicate zeros '0' ++ text.digits

/-- The text of a value under a conversion; a negative width fills up on the right. -/
private def valueText (conversion : Conversion) (width places : Option Int) (value : Json) :
    Except TemplateError (List Char) := do
  let flags := if (width.getD 0) < 0 then '-' :: conversion.flags else conversion.flags
  let width := (width.getD 0).natAbs
  let cut (s : List Char) : List Char := (places.map fun n => s.take n.toNat).getD s
  let text ← match ← numberText? conversion.letter (flags.contains '#') places value with
    | some text => .ok (signedText flags width text)
    | none =>
      match conversion.letter with
      | 's' => .ok (cut value.shown)
      | 'r' => .ok (cut value.nested)
      | letter => .error (.unknownLetter letter conversion.position)
  let fill := List.replicate (width - text.length) ' '
  return if flags.contains '-' then text ++ fill else fill ++ text

/-- The text of a conversion, and the values left. -/
private def fillConversion (conversion : Conversion) (supply : Supply) :
    Except TemplateError (List Char × Supply) := do
  let supply ← match conversion.name with
    | none => .ok supply
    | some name =>
      let name := String.ofList name
      match supply.names with
      | none => .error .noNames
      | some names =>
        match names.find? name with
        | some value => .ok { supply with left := [value] }
        | none => .error (.missingName name)
  let (width, supply) ← extentOf supply conversion.width
  let (places, supply) ← extentOf supply conversion.places
  if conversion.letter = '%' then return (['%'], supply)
  let (value, supply) ← Supply.take supply
  return (← valueText conversion width places value, supply)

/-- The text of the pieces. -/
private def fillPieces (supply : Supply) : List Piece → Except TemplateError (List Char)
  | [] => if supply.names.isNone && !supply.left.isEmpty then .error .tooManyValues else .ok []
  | .char c :: rest => return c :: (← fillPieces supply rest)
  | .broken e :: _ => .error e
  | .conversion conversion :: rest => do
    let (text, supply) ← fillConversion conversion supply
    return text ++ (← fillPieces supply rest)

/-- The values of a template; a single object gives its values by their names. -/
private def supplyOf : List Json → Supply
  | [.obj (first :: rest)] => ⟨[.obj (first :: rest)], some (first :: rest)⟩
  | values => ⟨values, none⟩

/-- The text of a template with values in it.  Without values the template is the text. -/
def fill (template : List Char) (values : List Json) : Except TemplateError (List Char) :=
  if values.isEmpty then .ok template else fillPieces (supplyOf values) (pieces template)

end Template

end ThermalPress
