import ThermalPress.Text.Utf8

/-!
# Percent coding

Bytes within text: a percent sign and two hexadecimal digits stand for one byte (`Percent.decode`), and a percent
sign that is followed by anything else stands for itself.  Where the bytes become text again, those that are no text
are either replaced (`Percent.lossyText`) or written with percent signs once more (`Percent.text`).
-/

namespace ThermalPress

namespace Percent

/-- The byte of a percent sign. -/
def sign : UInt8 := 0x25

private def hexByteValue? (b : UInt8) : Option Nat :=
  let n := b.toNat
  if 0x30 ≤ n && n ≤ 0x39 then some (n - 0x30)
  else if 0x41 ≤ n && n ≤ 0x46 then some (n - 0x37)
  else if 0x61 ≤ n && n ≤ 0x66 then some (n - 0x57)
  else none

/-- The byte that two hexadecimal digits stand for. -/
def byte? (high low : UInt8) : Option UInt8 :=
  match hexByteValue? high, hexByteValue? low with
  | some h, some l => some (UInt8.ofNat (h * 16 + l))
  | _, _ => none

/-- The bytes that a percent-coded text stands for. -/
def decode : Bytes → Bytes
  | [] => []
  | b :: rest =>
    match rest with
    | high :: low :: left =>
      if b = sign then
        match byte? high low with
        | some byte => byte :: decode left
        | none => b :: decode (high :: low :: left)
      else b :: decode (high :: low :: left)
    | rest => b :: decode rest
termination_by bytes => bytes.length

private def upperHexDigit (n : Nat) : Char := Char.ofNat (if n < 10 then 0x30 + n else 0x37 + n)

/-- A byte, percent-coded. -/
def encodeByte (b : UInt8) : List Char := ['%', upperHexDigit (b.toNat / 16), upperHexDigit (b.toNat % 16)]

/-- The text of bytes, with those that are no text percent-coded. -/
def keepingText : Bytes → List Char
  | [] => []
  | b :: rest =>
    let left := (Utf8.next b rest).2
    let shown := match (Utf8.next b rest).1 with
      | some c => [c]
      | none => ((b :: rest).take (rest.length + 1 - left.length)).flatMap encodeByte
    shown ++ keepingText left
termination_by bytes => bytes.length
decreasing_by exact Nat.lt_succ_of_le (Utf8.length_next b rest)

/-- The text that a percent-coded text stands for; bytes that are no text stay percent-coded. -/
def text (s : List Char) : List Char := keepingText (decode (Utf8.encode s))

/-- The text that a percent-coded text stands for, with a replacement character for what is no text. -/
def lossyText (s : List Char) : List Char := Utf8.decodeLossy (decode (Utf8.encode s))

end Percent

end ThermalPress
