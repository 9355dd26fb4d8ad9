import ThermalPress.RasterCommand

/-!
# How a printer reads raster commands

Behind `GS v 0` and a mode stand the width of a row in bytes and the number of rows, each in two bytes, the low one
first.  A printer takes as many bytes of dots as both say, whatever they hold (`readRasterCommand?`), and goes on for as
long as a command follows (`readRasterCommands`).  What it takes for a command is one with the dots that it announces
(`readRasterCommand?_eq_some_iff`), so such commands are read back one after another, and nothing of what follows them
is (`readRasterCommands_append`).
-/

namespace ThermalPress

namespace RasterCommand

/-- The width and the height fit their two bytes, and the dots are as many as both say. -/
structure Fits (c : RasterCommand) : Prop where
  width : c.width < 0x10000
  height : c.height < 0x10000
  dots : c.dots.length = c.width * c.height

end RasterCommand

namespace Printer

/-- The raster command that bytes begin with, and the bytes behind it. -/
def readRasterCommand? : Bytes → Option (RasterCommand × Bytes)
  | 0x1D :: 0x76 :: 0x30 :: 0x00 :: widthLow :: widthHigh :: heightLow :: heightHigh :: rest =>
    let width := widthLow.toNat + widthHigh.toNat * 256
    let height := heightLow.toNat + heightHigh.toNat * 256
    if width * height ≤ rest.length then
      some (⟨width, height, rest.take (width * height)⟩, rest.drop (width * height))
    else none
  | _ => none

private theorem twoBytes_toNat (low high : UInt8) : RasterCommand.twoBytes (low.toNat + high.toNat * 256) = [low, high] := by
  have hlow := low.toNat_lt
  have hmod : (low.toNat + high.toNat * 256) % 256 = low.toNat := by omega
  have hdiv : (low.toNat + high.toNat * 256) / 256 = high.toNat := by omega
  rw [RasterCommand.twoBytes, hmod, hdiv, UInt8.ofNat_toNat, UInt8.ofNat_toNat]

/-- A number that fits is read back from its two bytes. -/
private theorem exists_twoBytes {n : Nat} (h : n < 0x10000) :
    ∃ low high, RasterCommand.twoBytes n = [low, high] ∧ low.toNat + high.toNat * 256 = n := by
  refine ⟨_, _, rfl, ?_⟩
  rw [UInt8.toNat_ofNat', UInt8.toNat_ofNat']
  omega

/-- What is read as a command is one with the dots it announces, in front of the rest. -/
theorem readRasterCommand?_eq_some_iff {bytes rest : Bytes} {c : RasterCommand} :
    readRasterCommand? bytes = some (c, rest) ↔ c.Fits ∧ bytes = c.bytes ++ rest := by
  constructor
  · intro h
    unfold readRasterCommand? at h
    split at h
    · next widthLow widthHigh heightLow heightHigh behind =>
      simp only [Option.ite_none_right_eq_some, Option.some.injEq, Prod.mk.injEq] at h
      obtain ⟨hlength, rfl, rfl⟩ := h
      have hbounds := And.intro widthLow.toNat_lt widthHigh.toNat_lt
      have hbounds' := And.intro heightLow.toNat_lt heightHigh.toNat_lt
      refine ⟨⟨?_, ?_, List.length_take_of_le hlength⟩, ?_⟩
      · show widthLow.toNat + widthHigh.toNat * 256 < 0x10000
        omega
      · show heightLow.toNat + heightHigh.toNat * 256 < 0x10000
        omega
      · simp [RasterCommand.bytes, twoBytes_toNat]
    · cases h
  · rintro ⟨hfits, rfl⟩
    obtain ⟨width, height, dots⟩ := c
    obtain ⟨widthLow, widthHigh, hwidth, rfl⟩ := exists_twoBytes hfits.width
    obtain ⟨heightLow, heightHigh, hheight, rfl⟩ := exists_twoBytes hfits.height
    have hdots := hfits.dots
    dsimp only at hdots hwidth hheight
    simp only [RasterCommand.bytes, hwidth, hheight, List.cons_append, List.nil_append, readRasterCommand?]
    rw [if_pos (by rw [List.length_append]; omega), ← hdots, List.take_left, List.drop_left]

theorem length_readRasterCommand {bytes rest : Bytes} {c : RasterCommand}
    (h : readRasterCommand? bytes = some (c, rest)) : rest.length < bytes.length := by
  obtain ⟨-, rfl⟩ := readRasterCommand?_eq_some_iff.1 h
  simp only [RasterCommand.bytes, List.length_append, List.length_cons]
  omega

/-- All raster commands that bytes begin with, and the bytes behind them. -/
def readRasterCommands (bytes : Bytes) : List RasterCommand × Bytes :=
  match _h : readRasterCommand? bytes with
  | some (command, rest) => (command :: (readRasterCommands rest).1, (readRasterCommands rest).2)
  | none => ([], bytes)
termination_by bytes.length
decreasing_by all_goals exact length_readRasterCommand _h

theorem readRasterCommands_of_some {bytes rest : Bytes} {c : RasterCommand}
    (h : readRasterCommand? bytes = some (c, rest)) :
    readRasterCommands bytes = (c :: (readRasterCommands rest).1, (readRasterCommands rest).2) := by
  rw [readRasterCommands]
  split
  · next c' rest' hread =>
    rw [h, Option.some.injEq, Prod.mk.injEq] at hread
    obtain ⟨rfl, rfl⟩ := hread
    rfl
  · next hread =>
    rw [h] at hread
    cases hread

/-- Bytes that begin with another command hold no raster command in front. -/
theorem readRasterCommands_of_head_ne {first : UInt8} (h : first ≠ 0x1D) (bytes : Bytes) :
    readRasterCommands (first :: bytes) = ([], first :: bytes) := by
  rw [readRasterCommands]
  split
  · next c rest hread =>
    obtain ⟨-, hbytes⟩ := readRasterCommand?_eq_some_iff.1 hread
    exact absurd (List.cons.inj hbytes).1 h
  · rfl

/-- Commands with the dots they announce are read back, in front of what the rest is read as. -/
theorem readRasterCommands_append {commands : List RasterCommand} (h : ∀ c ∈ commands, c.Fits) (rest : Bytes) :
    readRasterCommands (commands.flatMap RasterCommand.bytes ++ rest) =
      (commands ++ (readRasterCommands rest).1, (readRasterCommands rest).2) := by
  induction commands with
  | nil => rfl
  | cons c commands ih =>
    have hfirst : c.Fits := h c (by simp)
    rw [List.flatMap_cons, List.append_assoc,
      readRasterCommands_of_some (readRasterCommand?_eq_some_iff.2 ⟨hfirst, rfl⟩), ih fun d hd => h d (by simp [hd])]
    rfl

end Printer

end ThermalPress
