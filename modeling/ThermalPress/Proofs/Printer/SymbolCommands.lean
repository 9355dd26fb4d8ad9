import ThermalPress.Command

/-!
# How a printer reads symbol commands

A printer reads a command of the symbol family without looking at its data: behind `GS ( k` stand two bytes of length,
the low one first, and then as many bytes of parameters (`readSymbolCommand?`).  It goes on for as long as a command
follows (`readSymbolCommands`).  Parameters behind their length are read back whatever they hold and whatever follows
(`readSymbolCommand?_append`), and commands that are read one by one are read together, in front of what the rest of
the bytes is read as (`readSymbolCommands_of_readTimes`).
-/

namespace ThermalPress

/-- A command of the symbol family. -/
inductive SymbolCommand where
  | selectModel (model : Int)
  | moduleSize (size : Int)
  | errorCorrection (level : Int)
  | store (data : Bytes)
  | printStored
  | other (parameters : Bytes)
  deriving DecidableEq, Repr

namespace SymbolCommand

/-- The command that the bytes behind the length stand for: the family, the function, and what it needs. -/
def ofParameters : Bytes → SymbolCommand
  | [49, 65, model, 0] => .selectModel model.toNat
  | [49, 67, size] => .moduleSize size.toNat
  | [49, 69, level] => .errorCorrection level.toNat
  | 49 :: 80 :: 48 :: data => .store data
  | [49, 81, 48] => .printStored
  | parameters => .other parameters

theorem ofParameters_moduleSize (size : UInt8) : ofParameters [49, 67, size] = .moduleSize size.toNat := rfl

theorem ofParameters_errorCorrection (level : UInt8) : ofParameters [49, 69, level] = .errorCorrection level.toNat :=
  rfl

end SymbolCommand

namespace Printer

/-- The symbol command that bytes begin with, and the bytes behind it. -/
def readSymbolCommand? : Bytes → Option (SymbolCommand × Bytes)
  | 0x1D :: 0x28 :: 0x6B :: low :: high :: rest =>
    let length := low.toNat + high.toNat * 256
    if length ≤ rest.length then some (.ofParameters (rest.take length), rest.drop length) else none
  | _ => none

theorem length_readSymbolCommand {bytes rest : Bytes} {command : SymbolCommand}
    (h : readSymbolCommand? bytes = some (command, rest)) : rest.length < bytes.length := by
  unfold readSymbolCommand? at h
  split at h
  · simp only [Option.ite_none_right_eq_some, Option.some.injEq, Prod.mk.injEq] at h
    obtain ⟨-, -, rfl⟩ := h
    simp only [List.length_drop, List.length_cons]
    omega
  · simp at h

/-- All symbol commands that bytes begin with, and the bytes behind them. -/
def readSymbolCommands (bytes : Bytes) : List SymbolCommand × Bytes :=
  match _h : readSymbolCommand? bytes with
  | some (command, rest) => (command :: (readSymbolCommands rest).1, (readSymbolCommands rest).2)
  | none => ([], bytes)
termination_by bytes.length
decreasing_by all_goals exact length_readSymbolCommand _h

/-- That many symbol commands, and the bytes behind them. -/
def readTimes : Nat → Bytes → Option (List SymbolCommand × Bytes)
  | 0, bytes => some ([], bytes)
  | n + 1, bytes => do
    let (command, rest) ← readSymbolCommand? bytes
    let (commands, rest) ← readTimes n rest
    return (command :: commands, rest)

theorem readTimes_succ {n : Nat} {bytes next rest : Bytes} {command : SymbolCommand}
    {commands : List SymbolCommand} (hfirst : readSymbolCommand? bytes = some (command, next))
    (hnext : readTimes n next = some (commands, rest)) :
    readTimes (n + 1) bytes = some (command :: commands, rest) := by
  simp [readTimes, hfirst, hnext]

/-- Commands that are read one by one are read in front of whatever the rest is read as. -/
theorem readSymbolCommands_of_readTimes {n : Nat} {bytes rest : Bytes} {commands : List SymbolCommand}
    (h : readTimes n bytes = some (commands, rest)) :
    readSymbolCommands bytes = (commands ++ (readSymbolCommands rest).1, (readSymbolCommands rest).2) := by
  induction n generalizing bytes commands with
  | zero =>
    simp only [readTimes, Option.some.injEq, Prod.mk.injEq] at h
    obtain ⟨rfl, rfl⟩ := h
    rfl
  | succ n ih =>
    simp only [readTimes, Option.bind_eq_bind, Option.bind_eq_some_iff, Option.pure_def, Option.some.injEq,
      Prod.mk.injEq] at h
    obtain ⟨⟨command, next⟩, hfirst, ⟨others, last⟩, hothers, rfl, rfl⟩ := h
    rw [readSymbolCommands]
    split
    · next command' next' hread =>
      rw [hfirst, Option.some.injEq, Prod.mk.injEq] at hread
      obtain ⟨rfl, rfl⟩ := hread
      rw [ih hothers]
      rfl
    · next hread =>
      rw [hfirst] at hread
      cases hread

/-! ### Reading back what is written -/

/-- The two bytes of a length give it back. -/
private theorem read_lengthPrefix {length : Int} {prefixBytes : Bytes}
    (h : Command.lengthPrefix length = .ok prefixBytes) :
    ∃ low high, prefixBytes = [low, high] ∧ ((low.toNat + high.toNat * 256 : Nat) : Int) = length := by
  unfold Command.lengthPrefix at h
  split at h
  · next hrange =>
    rw [Except.ok.injEq] at h
    refine ⟨_, _, h.symm, ?_⟩
    rw [UInt8.toNat_ofNat', UInt8.toNat_ofNat']
    omega
  · cases h

/-- Parameters behind their length are read back, whatever they hold and whatever follows. -/
theorem readSymbolCommand?_append {parameters prefixBytes : Bytes}
    (h : Command.lengthPrefix parameters.length = .ok prefixBytes) (rest : Bytes) :
    readSymbolCommand? (Command.symbolFunction ++ prefixBytes ++ parameters ++ rest) =
      some (.ofParameters parameters, rest) := by
  obtain ⟨low, high, rfl, hlength⟩ := read_lengthPrefix h
  have hlength : low.toNat + high.toNat * 256 = parameters.length := by omega
  simp only [Command.symbolFunction, Command.groupSeparator, List.cons_append, List.nil_append,
    readSymbolCommand?, hlength, List.length_append]
  rw [if_pos (Nat.le_add_right ..), List.take_left, List.drop_left]

private theorem read_three (a b c : UInt8) (rest : Bytes) :
    readSymbolCommand? (Command.symbolFunction ++ [3, 0] ++ [a, b, c] ++ rest) =
      some (.ofParameters [a, b, c], rest) := by
  have hlength : Command.lengthPrefix [a, b, c].length = .ok [3, 0] := Command.lengthPrefix_three
  exact readSymbolCommand?_append hlength rest

/-! Each command of a symbol is read as what it says. -/

theorem read_symbolModel {bytes : Bytes} (h : Command.selectModel Command.symbolModel = .ok bytes) (rest : Bytes) :
    readSymbolCommand? (bytes ++ rest) = some (.selectModel Command.symbolModel, rest) := by
  rw [Command.selectModel_symbolModel, Except.ok.injEq] at h
  rw [← h, readSymbolCommand?_append rfl]
  rfl

theorem read_moduleSize {size : Int} {bytes : Bytes} (h : Command.moduleSize size = .ok bytes) (rest : Bytes) :
    readSymbolCommand? (bytes ++ rest) = some (.moduleSize size, rest) := by
  obtain ⟨hrange, rfl⟩ := Command.moduleSize_eq_ok_iff.1 h
  have hsize : ((UInt8.ofNat size.toNat).toNat : Int) = size := by
    rw [UInt8.toNat_ofNat']
    omega
  rw [read_three, SymbolCommand.ofParameters_moduleSize, hsize]

theorem read_errorCorrection {level : Int} {bytes : Bytes} (h : Command.errorCorrection level = .ok bytes)
    (rest : Bytes) : readSymbolCommand? (bytes ++ rest) = some (.errorCorrection level, rest) := by
  obtain ⟨hrange, rfl⟩ := Command.errorCorrection_eq_ok_iff.1 h
  have hlevel : ((UInt8.ofNat level.toNat).toNat : Int) = level := by
    rw [UInt8.toNat_ofNat']
    omega
  rw [read_three, SymbolCommand.ofParameters_errorCorrection, hlevel]

theorem read_store {data bytes : Bytes} (h : Command.store data = .ok bytes) (rest : Bytes) :
    readSymbolCommand? (bytes ++ rest) = some (.store data, rest) := by
  obtain ⟨-, length, hlength, rfl⟩ := Command.store_eq_ok_iff.1 h
  rw [readSymbolCommand?_append hlength]
  rfl

theorem read_printStored (rest : Bytes) :
    readSymbolCommand? (Command.printStored ++ rest) = some (.printStored, rest) := by
  rw [Command.printStored_eq, read_three]
  rfl

end Printer

end ThermalPress
