import ThermalPress.Json.Basic
import ThermalPress.Settings.Issue
import ThermalPress.Text.Blank

/-!
# Reading numbers and texts from values

What a field accepts as a whole number (`Json.whole`), as a binary number (`Json.number`) and as a text
(`Json.string`).  A whole number may be written with blanks around it, a sign, zeros in front, single underscores
between its digits, and a point with nothing but zeros behind it.
-/

namespace ThermalPress

private def isAsciiDigit (c : Char) : Bool := '0' ≤ c && c ≤ '9'

/-- Whether every underscore stands between two other characters. -/
private def underscoresInside : List Char → Bool
  | '_' :: _ => false
  | s => s.getLast? != some '_' && (s.zip s.tail).all fun (a, b) => !(a == '_' && b == '_')

/-- The text without its underscores, if each stands between two other characters. -/
private def withoutUnderscores? (s : List Char) : Option (List Char) :=
  if underscoresInside s then some (s.filter (· != '_')) else none

/-- The zeros in front of a number, with underscores among them, up to the last digit they leave. -/
private def dropZeros (s : List Char) : List Char :=
  match s with
  | '0' :: _ =>
    match s.dropWhile fun c => c == '0' || c == '_' with
    | [] => s.getLast?.toList
    | '.' :: rest => (s.takeWhile fun c => c == '0' || c == '_').getLast?.toList ++ '.' :: rest
    | rest => rest
  | _ => s

/-- The digits in front of a point that only zeros follow, or the whole text without a point. -/
private def wholePart? (s : List Char) : Option (List Char) :=
  match s.dropWhile (· != '.') with
  | [] => some s
  | _ :: places => if places.all (· == '0') then some (s.takeWhile (· != '.')) else none

private def digitsNumber? (s : List Char) : Option Nat :=
  if s.isEmpty || !s.all isAsciiDigit then none
  else some (s.foldl (fun n c => n * 10 + (c.toNat - '0'.toNat)) 0)

private def unsignedWhole? (s : List Char) : Option Nat := do
  let first ← s.head?
  if !isAsciiDigit first then none
  let digits ← wholePart? (dropZeros s)
  digitsNumber? (← withoutUnderscores? digits)

/-- The whole number that a text stands for. -/
def wholeOfText? (s : List Char) : Option Int :=
  match trimNumber s with
  | '-' :: rest => (unsignedWhole? rest).map fun n => -(n : Int)
  | '+' :: rest => (unsignedWhole? rest).map fun n => (n : Int)
  | s => (unsignedWhole? s).map fun n => (n : Int)

private def splitSign : List Char → Bool × List Char
  | '-' :: rest => (true, rest)
  | '+' :: rest => (false, rest)
  | s => (false, s)

/-- The power of ten behind the digits of a number, if what follows them is one. -/
private def powerOf? : List Char → Option Int
  | [] => some 0
  | e :: rest =>
    if e == 'e' || e == 'E' then
      let (negative, digits) := splitSign rest
      (digitsNumber? digits).map fun n => if negative then -(n : Int) else n
    else none

private def unsignedReal? (negative : Bool) (s : List Char) : Option Binary64 :=
  let word := String.ofList (s.map Char.toLower)
  if word == "inf" || word == "infinity" then some (.infinite negative)
  else if word == "nan" then some .notNumber
  else
    let whole := s.takeWhile isAsciiDigit
    let rest := s.dropWhile isAsciiDigit
    let (places, rest) := match rest with
      | '.' :: rest => (rest.takeWhile isAsciiDigit, rest.dropWhile isAsciiDigit)
      | rest => ([], rest)
    if whole.isEmpty && places.isEmpty then none
    else do
      let power ← powerOf? rest
      let digits ← digitsNumber? (whole ++ places)
      return Binary64.ofDecimal negative digits (power - places.length)

private def plainReal? (s : List Char) : Option Binary64 :=
  let (negative, rest) := splitSign (trimNumber s)
  unsignedReal? negative rest

/-- The binary number that a text stands for. -/
def realOfText? (s : List Char) : Option Binary64 :=
  (plainReal? s).or ((withoutUnderscores? s).bind plainReal?)

namespace Json

/-- The value as a whole number. -/
def whole : Json → Except Issue Int
  | .int n => .ok n
  | .bool b => .ok (if b then 1 else 0)
  | .real x =>
    match x with
    | .finite .. =>
      match x.toInt? with
      | none => .error .wholeFromFraction
      | some n => if n.natAbs < Nat.pow 2 63 then .ok n else .error .wholeSize
    | _ => .error .finite
  | .str s =>
    match wholeOfText? s.toList with
    | some n => if (decimalDigits n.natAbs).length ≤ 4300 then .ok n else .error .wholeSize
    | none => .error .wholeParsing
  | _ => .error .wholeType

/-- The value as a binary number. -/
def number : Json → Except Issue Binary64
  | .real x => .ok x
  | .int n =>
    match Binary64.ofInt n with
    | .infinite _ => .error .realType
    | x => .ok x
  | .bool b => .ok (Binary64.ofInt (if b then 1 else 0))
  | .str s =>
    match realOfText? s.toList with
    | some x => .ok x
    | none => .error .realParsing
  | _ => .error .realType

/-- The value as a text. -/
def string : Json → Except Issue String
  | .str s => .ok s
  | _ => .error .stringType

end Json

end ThermalPress
