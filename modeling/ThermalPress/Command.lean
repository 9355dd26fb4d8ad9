import ThermalPress.Text.Utf8

/-!
# Printer commands

The byte sequences that a printer obeys: line ends, emphasis, size, alignment, line spacing, feeding, and the five
functions of the two-dimensional symbol family `GS ( k`.  A parameter that does not fit its place is refused
(`CommandError`).  The length of a symbol command is written low byte first and counts the function bytes with the
data (`lengthPrefix`, read back by `readLengthPrefix`).
-/

namespace ThermalPress

/-- Where a line stands between the margins. -/
inductive Alignment where
  | left
  | center
  | right
  deriving DecidableEq, Repr

/-- Why a command could not be written. -/
inductive CommandError where
  | byteRange (what : String) (n : Int)
  | parameterLength (length : Int)
  | moduleSize (size : Int)
  | errorLevel (level : Int)
  | dataLength (length : Nat)
  deriving DecidableEq, Repr

/-- What the error says. -/
def CommandError.message : CommandError → String
  | .byteRange what n => what ++ " out of range 0-255: " ++ toString n
  | .parameterLength length => "QR parameter length out of range: " ++ toString length
  | .moduleSize size => "QR module size must be 1-16: " ++ toString size
  | .errorLevel level => "QR error correction must be one of 48-51: " ++ toString level
  | .dataLength length => "QR data too long: " ++ toString length

namespace Command

def escape : UInt8 := 0x1B
def groupSeparator : UInt8 := 0x1D
def lineFeed : Bytes := [0x0A]
def lineEnd : Bytes := [0x0D, 0x0A]

/-- Brings the printer into its initial state. -/
def reset : Bytes := [escape, 0x40]

def align : Alignment → Bytes
  | .left => [escape, 0x61, 0]
  | .center => [escape, 0x61, 1]
  | .right => [escape, 0x61, 2]

def bold (on : Bool) : Bytes := [escape, 0x45, if on then 1 else 0]

/-- Double width and height, or normal size. -/
def double (on : Bool) : Bytes := [groupSeparator, 0x21, if on then 0x11 else 0]

private def byte (what : String) (n : Int) : Except CommandError UInt8 :=
  if 0 ≤ n ∧ n ≤ 255 then .ok (UInt8.ofNat n.toNat) else .error (.byteRange what n)

/-- The distance between lines, in units of 1/180 inch. -/
def lineSpacing (n : Int) : Except CommandError Bytes :=
  (byte "line spacing" n).map fun b => [escape, 0x33, b]

theorem lineSpacing_of_range {n : Int} (h : 0 ≤ n ∧ n ≤ 255) :
    lineSpacing n = .ok [escape, 0x33, UInt8.ofNat n.toNat] := by
  simp [lineSpacing, byte, h, Except.map]

/-- Prints what is buffered and feeds `n` lines. -/
def feed (n : Int) : Except CommandError Bytes :=
  (byte "feed lines" n).map fun b => [escape, 0x64, b]

/-- Prints what is buffered without moving the paper. -/
def flush : Bytes := [escape, 0x64, 0]

/-- Empty lines; none for a negative number. -/
def blankLines (n : Int) : Bytes := (List.replicate n.toNat lineEnd).flatten

/-! ### Symbols -/

/-- The levels of error correction, by letter. -/
def errorLevels : List (Char × Int) := [('L', 48), ('M', 49), ('Q', 50), ('H', 51)]

/-- The symbol model that is always selected. -/
def symbolModel : Int := 50

/-- The bytes that a store command counts besides its data. -/
def storeOverhead : Nat := 3

/-- The most data that a store command can carry. -/
def maxStored : Nat := 0xFFFF - storeOverhead

/-- What every symbol command starts with. -/
def symbolFunction : Bytes := [groupSeparator, 0x28, 0x6B]

/-- A length in two bytes, the low one first. -/
def lengthPrefix (length : Int) : Except CommandError Bytes :=
  if 0 ≤ length ∧ length ≤ 0xFFFF then
    .ok [UInt8.ofNat (length.toNat % 256), UInt8.ofNat (length.toNat / 256)]
  else .error (.parameterLength length)

/-- The length that two bytes stand for, the low one first. -/
def readLengthPrefix (low high : Int) : Int := low + high * 256

/-- A symbol command with three parameter bytes. -/
private def shortCommand (function : UInt8) (parameter : UInt8) : Bytes :=
  symbolFunction ++ [3, 0, 49, function, parameter]

def selectModel (model : Int) : Except CommandError Bytes :=
  (byte "QR model" model).map fun b => symbolFunction ++ [4, 0, 49, 65, b, 0]

def moduleSize (size : Int) : Except CommandError Bytes :=
  if 1 ≤ size ∧ size ≤ 16 then .ok (shortCommand 67 (UInt8.ofNat size.toNat)) else .error (.moduleSize size)

def errorCorrection (level : Int) : Except CommandError Bytes :=
  if level ∈ errorLevels.map (·.2) then .ok (shortCommand 69 (UInt8.ofNat level.toNat))
  else .error (.errorLevel level)

/-- Puts the data of a symbol into the printer. -/
def store (data : Bytes) : Except CommandError Bytes :=
  if maxStored < data.length then .error (.dataLength data.length)
  else (lengthPrefix (data.length + storeOverhead)).map fun length =>
    symbolFunction ++ length ++ [49, 80, 48] ++ data

/-- Prints the stored symbol. -/
def printStored : Bytes := shortCommand 81 48

/-! Which parameters a symbol command takes, and its bytes: the family, the length and the parameters. -/

theorem lengthPrefix_three : lengthPrefix 3 = .ok [3, 0] := rfl

theorem selectModel_symbolModel : selectModel symbolModel = .ok (symbolFunction ++ [4, 0] ++ [49, 65, 50, 0]) := rfl

theorem moduleSize_eq_ok_iff {size : Int} {bytes : Bytes} : moduleSize size = .ok bytes ↔
    (1 ≤ size ∧ size ≤ 16) ∧ bytes = symbolFunction ++ [3, 0] ++ [49, 67, UInt8.ofNat size.toNat] := by
  unfold moduleSize
  split
  · next h =>
    rw [Except.ok.injEq, and_iff_right h, eq_comm]
    rfl
  · next h => simp [h]

theorem errorCorrection_eq_ok_iff {level : Int} {bytes : Bytes} : errorCorrection level = .ok bytes ↔
    (48 ≤ level ∧ level ≤ 51) ∧ bytes = symbolFunction ++ [3, 0] ++ [49, 69, UInt8.ofNat level.toNat] := by
  have hlevels : level ∈ errorLevels.map (·.2) ↔ 48 ≤ level ∧ level ≤ 51 := by
    simp only [errorLevels, List.map_cons, List.map_nil, List.mem_cons, List.not_mem_nil, or_false]
    omega
  unfold errorCorrection
  simp only [hlevels]
  split
  · next h =>
    rw [Except.ok.injEq, and_iff_right h, eq_comm]
    rfl
  · next h => simp [h]

theorem store_eq_ok_iff {data bytes : Bytes} : store data = .ok bytes ↔ data.length ≤ maxStored ∧
    ∃ length, lengthPrefix ([49, 80, 48] ++ data).length = .ok length ∧
      bytes = symbolFunction ++ length ++ ([49, 80, 48] ++ data) := by
  have hlength : (([49, 80, 48] ++ data).length : Int) = data.length + storeOverhead := by
    simp only [List.length_append, List.length_cons, List.length_nil, storeOverhead]
    omega
  unfold store
  rw [hlength]
  split
  · next h => simp [Nat.not_le.2 h]
  · next h =>
    rw [and_iff_right (Nat.not_lt.1 h)]
    cases lengthPrefix (data.length + storeOverhead) with
    | error e => simp [Except.map]
    | ok length => simp [Except.map, eq_comm]

theorem printStored_eq : printStored = symbolFunction ++ [3, 0] ++ [49, 81, 48] := rfl

end Command

end ThermalPress
