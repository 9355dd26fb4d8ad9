import ThermalPress.Text.Utf8

/-!
# UTF-16 and UTF-32

Text in units of two or four bytes.  A byte order mark in front of UTF-16 text chooses the byte order and is not
part of the text (`Utf16.decodeMarked`); without one the little end comes first.
-/

namespace ThermalPress

/-- Which byte of a unit comes first. -/
inductive ByteOrder where
  | little
  | big
  deriving DecidableEq, Repr

/-- The number that two bytes stand for. -/
def ByteOrder.unit : ByteOrder → UInt8 → UInt8 → Nat
  | .little, a, b => a.toNat + 256 * b.toNat
  | .big, a, b => 256 * a.toNat + b.toNat

/-- The two bytes of a number below `65536`. -/
def ByteOrder.bytes : ByteOrder → Nat → Bytes
  | .little, n => [UInt8.ofNat (n % 256), UInt8.ofNat (n / 256)]
  | .big, n => [UInt8.ofNat (n / 256), UInt8.ofNat (n % 256)]

namespace Utf16

/-- The units of a character: one, or a pair of surrogates. -/
def units (c : Char) : List Nat :=
  let n := c.toNat
  if n < 0x10000 then [n] else [0xD800 + (n - 0x10000) / 1024, 0xDC00 + (n - 0x10000) % 1024]

/-- The bytes of a text. -/
def encode (order : ByteOrder) (s : List Char) : Bytes := (s.flatMap units).flatMap order.bytes

/-- The bytes of a text after a byte order mark, the little end first. -/
def encodeMarked (s : List Char) : Bytes := encode .little ('\uFEFF' :: s)

private def isHighSurrogate (n : Nat) : Bool := 0xD800 ≤ n && n < 0xDC00

private def isLowSurrogate (n : Nat) : Bool := 0xDC00 ≤ n && n < 0xE000

/-- The characters of a byte string, with `none` for each surrogate that stands alone and for bytes that break off
within a character. -/
def chars (order : ByteOrder) : Bytes → List (Option Char)
  | [] => []
  | [_] => [none]
  | a :: b :: rest =>
    let n := order.unit a b
    if isHighSurrogate n then
      match rest with
      | c :: d :: more =>
        let m := order.unit c d
        if isLowSurrogate m then
          some (Char.ofNat (0x10000 + (n - 0xD800) * 1024 + (m - 0xDC00))) :: chars order more
        else none :: chars order (c :: d :: more)
      | _ => [none]
    else if isLowSurrogate n then none :: chars order rest
    else some (Char.ofNat n) :: chars order rest
termination_by structural bytes => bytes

/-- The text with a replacement character for each ill-formed run. -/
def decodeLossy (order : ByteOrder) (bytes : Bytes) : List Char :=
  (chars order bytes).map (·.getD replacementChar)

/-- The byte order that a mark in front of the bytes chooses, and the bytes after it. -/
def splitMark : Bytes → ByteOrder × Bytes
  | 0xFF :: 0xFE :: rest => (.little, rest)
  | 0xFE :: 0xFF :: rest => (.big, rest)
  | bytes => (.little, bytes)

/-- The text in the byte order of its mark, with a replacement character for each ill-formed run. -/
def decodeMarked (bytes : Bytes) : List Char :=
  let (order, bytes) := splitMark bytes
  decodeLossy order bytes

end Utf16

namespace Utf32

/-- The characters of a byte string of four-byte units, if each unit is a character. -/
def decode? (order : ByteOrder) : Bytes → Option (List Char)
  | [] => some []
  | a :: b :: c :: d :: rest =>
    let n := match order with
      | .little => order.unit a b + 65536 * order.unit c d
      | .big => 65536 * order.unit a b + order.unit c d
    if n.isValidChar then (decode? order rest).map (Char.ofNat n :: ·) else none
  | _ => none

end Utf32

end ThermalPress
