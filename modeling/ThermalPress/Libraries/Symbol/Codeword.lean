import ThermalPress.Libraries.Symbol.Field
import ThermalPress.Libraries.Symbol.Segment

/-!
# Codewords

The bytes that a symbol shows.  The bits of the segments are filled up to the capacity of the symbol
(`dataCodewords`), divided into blocks, and the blocks with their check bytes are read off one byte at a time
(`interleave`).  A block of nothing but zeros has no check bytes, and then there is no symbol.
-/

namespace ThermalPress.Libraries

open Qr (ErrorLevel)

/-- The number that bits stand for, the highest first. -/
private def bitsNumber (bits : Bits) : Nat := bits.foldl (fun n b => 2 * n + b.toNat) 0

/-- Bits by eights, as bytes. -/
private def bytesOfBits : Bits → Bytes
  | a :: b :: c :: d :: e :: f :: g :: h :: rest =>
    UInt8.ofNat (bitsNumber [a, b, c, d, e, f, g, h]) :: bytesOfBits rest
  | _ => []

/-- Two bytes in turn. -/
private def filling : (count : Nat) → (first second : UInt8) → Bytes
  | 0, _, _ => []
  | count + 1, first, second => first :: filling count second first

/-- The data bytes of a symbol: the segments, up to four zero bits, zeros up to a byte, and filling bytes. -/
def dataCodewords (version : Nat) (level : ErrorLevel) (parts : List Segment) : Bytes :=
  let limit := capacity version level
  let bits := parts.flatMap (Segment.bits version)
  let ended := bits ++ List.replicate (min 4 (8 * limit - bits.length)) false
  let bytes := bytesOfBits (ended ++ List.replicate ((8 - ended.length % 8) % 8) false)
  bytes ++ filling (limit - bytes.length) 0xEC 0x11

/-- Cuts a list into parts of the given lengths. -/
def cutLengths {α : Type} : List Nat → List α → List (List α)
  | [], _ => []
  | n :: lengths, items => items.take n :: cutLengths lengths (items.drop n)

/-- The first elements of all lists, then the second ones, and so on; lists that have ended are passed over. -/
def interleave {α : Type} (lists : List (List α)) : List α :=
  let longest := (lists.map List.length).foldl max 0
  let columns := lists.map List.toArray
  (List.range longest).flatMap fun i => columns.filterMap (·[i]?)

/-- All codewords of a symbol, unless a block holds nothing but zeros. -/
def codewords? (version : Nat) (level : ErrorLevel) (parts : List Segment) : Option Bytes :=
  let plan := blockPlan version level
  let blocks := cutLengths plan.lengths (dataCodewords version level parts)
  if blocks.any (·.all (· == 0)) then none
  else
    let divisor := divisor plan.checks
    some (interleave blocks ++ interleave (blocks.map (checkBytes divisor)))

end ThermalPress.Libraries
