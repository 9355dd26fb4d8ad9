/-!
# UTF-8

Writing text as UTF-8 and reading bytes as characters.  The reader takes a well-formed character, or the longest
run of bytes that could have begun one, which it reports as ill formed; what becomes of an ill-formed run is left
to the caller (`decodeLossy` shows a replacement character, `decodeKeeping` drops it, `decode?` gives up).
-/

namespace ThermalPress

/-- Text as bytes, in whatever encoding the context says. -/
abbrev Bytes := List UInt8

/-- The character shown in place of bytes that are not text. -/
def replacementChar : Char := '\uFFFD'

namespace Utf8

/-- The bytes of a text. -/
def encode (s : List Char) : Bytes := s.flatMap String.utf8EncodeChar

/-- The bytes of a string. -/
def encodeString (s : String) : Bytes := encode s.toList

/-- How a character that starts with a given byte goes on: the number of further bytes, the range of the first of
them, and the bits the first byte gives. -/
structure Lead where
  further : Nat
  low : UInt8
  high : UInt8
  bits : Nat

/-- What may follow a first byte of `0x80` or above, if it can start a character. -/
def lead? (b : UInt8) : Option Lead :=
  let n := b.toNat
  if 0xC2 ≤ n && n ≤ 0xDF then some ⟨1, 0x80, 0xBF, n - 0xC0⟩
  else if n == 0xE0 then some ⟨2, 0xA0, 0xBF, 0⟩
  else if n == 0xED then some ⟨2, 0x80, 0x9F, 13⟩
  else if 0xE1 ≤ n && n ≤ 0xEF then some ⟨2, 0x80, 0xBF, n - 0xE0⟩
  else if n == 0xF0 then some ⟨3, 0x90, 0xBF, 0⟩
  else if 0xF1 ≤ n && n ≤ 0xF3 then some ⟨3, 0x80, 0xBF, n - 0xF0⟩
  else if n == 0xF4 then some ⟨3, 0x80, 0x8F, 4⟩
  else none

/-- Takes `further` continuation bytes, the first of them between `low` and `high`; gives the code point, or
nothing where the bytes break off, and the bytes left. -/
def continuation : (further : Nat) → (low high : UInt8) → (bits : Nat) → Bytes → Option Nat × Bytes
  | 0, _, _, bits, rest => (some bits, rest)
  | _ + 1, _, _, _, [] => (none, [])
  | further + 1, low, high, bits, b :: rest =>
    if low ≤ b && b ≤ high then continuation further 0x80 0xBF (bits * 64 + b.toNat % 64) rest
    else (none, b :: rest)

theorem length_continuation (further : Nat) (low high : UInt8) (bits : Nat) (bytes : Bytes) :
    (continuation further low high bits bytes).2.length ≤ bytes.length := by
  fun_induction continuation further low high bits bytes with
  | case1 => simp
  | case2 => simp
  | case3 _ _ _ _ _ _ _ ih => simp only [List.length_cons]; omega
  | case4 => simp

/-- The character that starts with byte `b`, or nothing for an ill-formed run, and the bytes after it. -/
def next (b : UInt8) (rest : Bytes) : Option Char × Bytes :=
  if b < 0x80 then (some (Char.ofNat b.toNat), rest)
  else match lead? b with
    | none => (none, rest)
    | some lead =>
      let (code, rest) := continuation lead.further lead.low lead.high lead.bits rest
      (code.map Char.ofNat, rest)

theorem length_next (b : UInt8) (rest : Bytes) : (next b rest).2.length ≤ rest.length := by
  unfold next
  split
  · simp
  · split
    · simp
    · exact length_continuation ..

/-- The characters of a byte string, with `none` for each ill-formed run. -/
def chars : Bytes → List (Option Char)
  | [] => []
  | b :: rest => (next b rest).1 :: chars (next b rest).2
termination_by bytes => bytes.length
decreasing_by exact Nat.lt_succ_of_le (length_next b rest)

/-- The text with a replacement character for each ill-formed run. -/
def decodeLossy (bytes : Bytes) : List Char := (chars bytes).map (·.getD replacementChar)

/-- The text without its ill-formed runs. -/
def decodeKeeping (bytes : Bytes) : List Char := (chars bytes).filterMap id

/-- The text, if the bytes are well formed. -/
def decode? (bytes : Bytes) : Option (List Char) := (chars bytes).mapM id

/-- The byte order mark that may stand before UTF-8 text. -/
def byteOrderMark : Bytes := [0xEF, 0xBB, 0xBF]

/-- The bytes without a byte order mark in front. -/
def dropByteOrderMark : Bytes → Bytes
  | 0xEF :: 0xBB :: 0xBF :: rest => rest
  | bytes => bytes

end Utf8

end ThermalPress
