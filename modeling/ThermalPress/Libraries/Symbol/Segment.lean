import ThermalPress.Libraries.Symbol.Version
import ThermalPress.Text.Utf8

/-!
# Segments

The data of a symbol is cut into segments, each written in the densest way its bytes allow: digits, a set of
forty-five characters, or plain bytes.  Long data is cut where at least `denseRun` bytes in a row can be written
densely (`splitLong`); short data is dense as a whole or not at all (`splitShort`).
-/

namespace ThermalPress.Libraries

open Qr (ErrorLevel)

/-- A list of bits. -/
abbrev Bits := List Bool

/-- The lowest `width` bits of a number, the highest of them first. -/
def bitsOf (width n : Nat) : Bits := (List.range width).reverse.map n.testBit

/-- How the bytes of a segment are written. -/
inductive Mode where
  | numeric
  | alphanumeric
  | bytes
  deriving DecidableEq, Repr

/-- Bytes written in one way. -/
structure Segment where
  mode : Mode
  data : Bytes
  deriving DecidableEq, Repr

/-- The least number of bytes that are worth a dense segment. -/
def denseRun : Nat := 20

/-- A decimal digit. -/
def isDigitByte (b : UInt8) : Bool := 0x30 ≤ b && b ≤ 0x39

/-- The characters of alphanumeric segments, each at the place of its value. -/
def alphanumerics : List Char := "0123456789ABCDEFGHIJKLMNOPQRSTUVWXYZ $%*+-./:".toList

/-- The value of a character of an alphanumeric segment. -/
def alphanumericValue? (b : UInt8) : Option Nat := alphanumerics.findIdx? fun c => c.toNat == b.toNat

def isAlphanumericByte (b : UInt8) : Bool := (alphanumericValue? b).isSome

/-- Cuts bytes into runs of one class that are long enough, and what lies between them. -/
def splitLong (inClass : UInt8 → Bool) (data : Bytes) : List (Bool × Bytes) :=
  let runs := data.splitBy fun a b => inClass a == inClass b
  let marked := runs.map fun run => ((run.head?.map inClass).getD false && denseRun ≤ run.length, run)
  let merged := marked.splitBy fun a b => !a.1 && !b.1
  merged.map fun group => ((group.head?.map (·.1)).getD false, group.flatMap (·.2))

/-- Takes the bytes as a whole if all are of one class; a line feed may follow them. -/
def splitShort (inClass : UInt8 → Bool) (data : Bytes) : List (Bool × Bytes) :=
  let run := data.takeWhile inClass
  match run, data.dropWhile inClass with
  | _ :: _, [] => [(true, run)]
  | _ :: _, [0x0A] => [(true, run), (false, [0x0A])]
  | _, _ => if data.isEmpty then [] else [(false, data)]

/-- The segments of the data: digits first, then alphanumeric characters in what is left, then bytes. -/
def segments (data : Bytes) : List Segment :=
  let split := if data.length ≤ denseRun then splitShort else splitLong
  (split isDigitByte data).flatMap fun (numeric, part) =>
    if numeric then [⟨.numeric, part⟩]
    else (split isAlphanumericByte part).map fun (dense, part) =>
      ⟨if dense then .alphanumeric else .bytes, part⟩

namespace Mode

/-- The number that stands for the mode. -/
def number : Mode → Nat
  | .numeric => 1
  | .alphanumeric => 2
  | .bytes => 4

/-- The number of bits that the length of a segment is written with. -/
def lengthWidth (version : Nat) : Mode → Nat
  | .numeric => if version < 10 then 10 else if version < 27 then 12 else 14
  | .alphanumeric => if version < 10 then 9 else if version < 27 then 11 else 13
  | .bytes => if version < 10 then 8 else 16

end Mode

/-- Digits, three at a time. -/
private def numericBits : Bytes → Bits
  | a :: b :: c :: rest =>
    bitsOf 10 ((a.toNat - 48) * 100 + (b.toNat - 48) * 10 + (c.toNat - 48)) ++ numericBits rest
  | [a, b] => bitsOf 7 ((a.toNat - 48) * 10 + (b.toNat - 48))
  | [a] => bitsOf 4 (a.toNat - 48)
  | [] => []

/-- Alphanumeric characters, two at a time. -/
private def alphanumericBits : Bytes → Bits
  | a :: b :: rest =>
    bitsOf 11 ((alphanumericValue? a).getD 0 * 45 + (alphanumericValue? b).getD 0) ++ alphanumericBits rest
  | [a] => bitsOf 6 ((alphanumericValue? a).getD 0)
  | [] => []

namespace Segment

/-- The bits of the data. -/
def body (segment : Segment) : Bits :=
  match segment.mode with
  | .numeric => numericBits segment.data
  | .alphanumeric => alphanumericBits segment.data
  | .bytes => segment.data.flatMap fun b => bitsOf 8 b.toNat

/-- The number of bits of the data. -/
def bodyLength (segment : Segment) : Nat :=
  let n := segment.data.length
  match segment.mode with
  | .numeric => n / 3 * 10 + (if n % 3 = 0 then 0 else 3 * (n % 3) + 1)
  | .alphanumeric => n / 2 * 11 + n % 2 * 6
  | .bytes => 8 * n

/-- The bits of a segment: its mode, its length and its data. -/
def bits (version : Nat) (segment : Segment) : Bits :=
  bitsOf 4 segment.mode.number ++ bitsOf (segment.mode.lengthWidth version) segment.data.length ++ segment.body

/-- The number of bits of a segment. -/
def length (version : Nat) (segment : Segment) : Nat :=
  4 + segment.mode.lengthWidth version + segment.bodyLength

end Segment

/-- The bits that segments take together in a symbol of a version. -/
def bitCount (version : Nat) (parts : List Segment) : Nat :=
  parts.foldl (fun bits part => bits + part.length version) 0

/-- The least version that holds the segments at a level. -/
def version? (level : ErrorLevel) (parts : List Segment) : Option Nat :=
  (List.range' 1 lastVersion).find? fun version => bitCount version parts ≤ 8 * capacity version level

end ThermalPress.Libraries
