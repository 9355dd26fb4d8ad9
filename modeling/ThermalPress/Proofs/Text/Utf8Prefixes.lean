import Mathlib.Data.List.Infix
import ThermalPress.Proofs.Text.Utf8Lengths

/-!
# Cut UTF-8 texts

The bytes of a character are read back as that character, whatever follows them (`next_encode`), and a part of them
that is shorter is read as one ill-formed run (`next_take`).  So a text that is cut at some byte and read again is the
longest initial part whose bytes were left whole (`decodeKeeping_take_encode`).
-/

namespace ThermalPress.Utf8

/-! ### One character -/

/-- The bytes go on with a character and end it with that code point. -/
inductive Continues : (further : Nat) → (low high : UInt8) → (bits : Nat) → Bytes → (code : Nat) → Prop
  | ended (low high : UInt8) (code : Nat) : Continues 0 low high code [] code
  | byte {further : Nat} {low high b : UInt8} {bits code : Nat} {bytes : Bytes} : low ≤ b → b ≤ high →
    Continues further 0x80 0xBF (bits * 64 + b.toNat % 64) bytes code →
    Continues (further + 1) low high bits (b :: bytes) code

section Continues

variable {further bits code : Nat} {low high : UInt8} {bytes : Bytes}

theorem Continues.read (h : Continues further low high bits bytes code) (rest : Bytes) :
    continuation further low high bits (bytes ++ rest) = (some code, rest) := by
  induction h with
  | ended => rfl
  | byte hlow hhigh _ ih => simpa [continuation, hlow, hhigh] using ih

theorem Continues.read_take (h : Continues further low high bits bytes code) {n : Nat} (hn : n < bytes.length) :
    continuation further low high bits (bytes.take n) = (none, []) := by
  induction h generalizing n with
  | ended => cases hn
  | byte hlow hhigh _ ih =>
    cases n with
    | zero => rfl
    | succ n => simpa [continuation, hlow, hhigh] using ih (Nat.lt_of_succ_lt_succ hn)

end Continues

/-- The bytes that a character is written in: one below `0x80`, or a first one and those that it announces. -/
inductive Written (c : Char) : Bytes → Prop
  | ascii (b : UInt8) : b < 0x80 → Char.ofNat b.toNat = c → Written c [b]
  | longer (b : UInt8) (bytes : Bytes) {further bits : Nat} {low high : UInt8} : ¬ b < 0x80 →
    lead? b = some ⟨further, low, high, bits⟩ → Continues further low high bits bytes c.toNat → Written c (b :: bytes)

private theorem toNat_ofNat {n : Nat} (h : n < 256) : (UInt8.ofNat n).toNat = n := by
  rw [UInt8.toNat_ofNat']
  exact Nat.mod_eq_of_lt h

section Leads

variable {b : UInt8}

private theorem lead?_two (hlow : 0xC2 ≤ b.toNat) (hhigh : b.toNat ≤ 0xDF) :
    lead? b = some ⟨1, 0x80, 0xBF, b.toNat - 0xC0⟩ := by
  simp [lead?, hlow, hhigh]

/-- The first of three bytes; the one behind it is bounded where the code would be too small or a surrogate. -/
private theorem lead?_three (hlow : 0xE0 ≤ b.toNat) (hhigh : b.toNat ≤ 0xEF) :
    ∃ low high, lead? b = some ⟨2, low, high, b.toNat - 0xE0⟩ ∧
      low.toNat ≤ 0xA0 ∧ (b.toNat = 0xE0 ∨ low.toNat ≤ 0x80) ∧ 0x9F ≤ high.toNat ∧
      (b.toNat = 0xED ∨ 0xBF ≤ high.toNat) := by
  unfold lead?
  grind

/-- The first of four bytes; the one behind it is bounded where the code would be too small or too large. -/
private theorem lead?_four (hlow : 0xF0 ≤ b.toNat) (hhigh : b.toNat ≤ 0xF4) :
    ∃ low high, lead? b = some ⟨3, low, high, b.toNat - 0xF0⟩ ∧
      low.toNat ≤ 0x90 ∧ (b.toNat = 0xF0 ∨ low.toNat ≤ 0x80) ∧ 0x8F ≤ high.toNat ∧
      (b.toNat = 0xF4 ∨ 0xBF ≤ high.toNat) := by
  unfold lead?
  grind

end Leads

/-- One more byte of a character, by the numbers. -/
private theorem Continues.of_toNat {further bits code n : Nat} {low high b : UInt8} {bytes : Bytes}
    (hb : b.toNat = n) (hlow : low.toNat ≤ n) (hhigh : n ≤ high.toNat)
    (h : Continues further 0x80 0xBF (bits * 64 + n % 64) bytes code) :
    Continues (further + 1) low high bits (b :: bytes) code := by
  subst hb
  exact .byte (UInt8.le_iff_toNat_le.2 hlow) (UInt8.le_iff_toNat_le.2 hhigh) h

private theorem Continues.last {bits code n : Nat} {low high b : UInt8} (hb : b.toNat = n) (hlow : low.toNat ≤ n)
    (hhigh : n ≤ high.toNat) (hcode : bits * 64 + n % 64 = code) : Continues 1 low high bits [b] code :=
  .of_toNat hb hlow hhigh (hcode ▸ .ended ..)

theorem written_encode (c : Char) : Written c (String.utf8EncodeChar c) := by
  obtain ⟨v, hv⟩ : ∃ v, c.toNat = v := ⟨_, rfl⟩
  have hval : c.val.toNat = v := hv
  have hvalid : v < 0xD800 ∨ (0xDFFF < v ∧ v < 0x110000) := hv ▸ c.valid
  have htail : ∀ n : Nat, (UInt8.ofNat (n % 64 + 128)).toNat = n % 64 + 128 := fun n => toNat_ofNat (by omega)
  have hleast : (0x80 : UInt8).toNat = 128 := rfl
  have hmost : (0xBF : UInt8).toNat = 191 := rfl
  -- by the size of the code point: below `2 ^ 7`, `2 ^ 11`, `2 ^ 16`, or more
  unfold String.utf8EncodeChar
  dsimp only
  rw [hval]
  split
  · next h =>
    have hb : (UInt8.ofNat v).toNat = v := toNat_ofNat (by omega)
    refine .ascii _ ?_ (by rw [hb, ← hv, Char.ofNat_toNat])
    rw [UInt8.lt_iff_toNat_lt, hb]
    exact Nat.lt_succ_of_le h
  · split
    · have hb : (UInt8.ofNat (v / 64 % 32 + 192)).toNat = v / 64 % 32 + 192 := toNat_ofNat (by omega)
      have hlead := lead?_two (by rw [hb]; omega) (by rw [hb]; omega)
      refine .longer _ _ (by rw [UInt8.lt_iff_toNat_lt, hb]; omega) hlead (.last (htail v) ?_ ?_ ?_) <;> omega
    · split
      · have hb : (UInt8.ofNat (v / 4096 % 16 + 224)).toNat = v / 4096 % 16 + 224 := toNat_ofNat (by omega)
        obtain ⟨low, high, hlead, hbounds⟩ := lead?_three (by rw [hb]; omega) (by rw [hb]; omega)
        rw [hb] at hbounds
        refine .longer _ _ (by rw [UInt8.lt_iff_toNat_lt, hb]; omega) hlead
          (.of_toNat (htail (v / 64)) ?_ ?_ (.last (htail v) ?_ ?_ ?_)) <;> omega
      · have hb : (UInt8.ofNat (v / 262144 % 8 + 240)).toNat = v / 262144 % 8 + 240 := toNat_ofNat (by omega)
        obtain ⟨low, high, hlead, hbounds⟩ := lead?_four (by rw [hb]; omega) (by rw [hb]; omega)
        rw [hb] at hbounds
        refine .longer _ _ (by rw [UInt8.lt_iff_toNat_lt, hb]; omega) hlead
          (.of_toNat (htail (v / 4096)) ?_ ?_ (.of_toNat (htail (v / 64)) ?_ ?_ (.last (htail v) ?_ ?_ ?_))) <;> omega

section Characters

variable (c : Char)

/-- The bytes of a character are read back, and nothing of what follows them. -/
theorem next_encode {b : UInt8} {bytes : Bytes} (h : String.utf8EncodeChar c = b :: bytes) (rest : Bytes) :
    next b (bytes ++ rest) = (some c, rest) := by
  have hwritten := written_encode c
  rw [h] at hwritten
  cases hwritten with
  | ascii _ hb hc => rw [List.nil_append, next, if_pos hb, hc]
  | longer _ _ hb hlead hmore =>
    rw [next, if_neg hb, hlead]
    simp only [hmore.read, Option.map_some, Char.ofNat_toNat]

/-- A part of the bytes of a character is read as one ill-formed run. -/
theorem next_take {b : UInt8} {bytes : Bytes} (h : String.utf8EncodeChar c = b :: bytes) {n : Nat}
    (hn : n < bytes.length) : next b (bytes.take n) = (none, []) := by
  have hwritten := written_encode c
  rw [h] at hwritten
  cases hwritten with
  | ascii => cases hn
  | longer _ _ hb hlead hmore =>
    rw [next, if_neg hb, hlead]
    simp only [hmore.read_take hn, Option.map_none]

theorem exists_encode_eq_cons : ∃ b bytes, String.utf8EncodeChar c = b :: bytes := by
  generalize hbytes : String.utf8EncodeChar c = bytes
  cases hbytes ▸ written_encode c with
  | ascii b => exact ⟨b, [], rfl⟩
  | longer b bytes => exact ⟨b, bytes, rfl⟩

end Characters

/-! ### Texts -/

@[simp] theorem encode_nil : encode [] = [] := rfl

@[simp] theorem encode_cons (c : Char) (s : List Char) : encode (c :: s) = String.utf8EncodeChar c ++ encode s := rfl

theorem encode_isPrefix {s other : List Char} (h : other <+: s) : encode other <+: encode s := by
  obtain ⟨rest, rfl⟩ := h
  exact ⟨encode rest, List.flatMap_append.symm⟩

theorem chars_encode (s : List Char) : chars (encode s) = s.map some := by
  induction s with
  | nil => simp [chars]
  | cons c s ih =>
    obtain ⟨b, bytes, hc⟩ := exists_encode_eq_cons c
    rw [encode_cons, hc, List.cons_append, chars, next_encode c hc, ih, List.map_cons]

/-- The bytes of a text are well formed, and read as that text. -/
theorem decode?_encode (s : List Char) : decode? (encode s) = some s := by
  rw [decode?, chars_encode]
  induction s with
  | nil => rfl
  | cons c s ih =>
    rw [List.map_cons, List.mapM_cons, ih]
    rfl

/-- The text as far as its characters are written within that many bytes. -/
def fitting : (limit : Nat) → List Char → List Char
  | _, [] => []
  | limit, c :: s =>
    let size := (String.utf8EncodeChar c).length
    if size ≤ limit then c :: fitting (limit - size) s else []

/-- A text that is cut at a byte is read as far as its characters are whole. -/
theorem decodeKeeping_take_encode (limit : Nat) (s : List Char) :
    decodeKeeping ((encode s).take limit) = fitting limit s := by
  induction s generalizing limit with
  | nil => simp [decodeKeeping, chars, fitting]
  | cons c s ih =>
    obtain ⟨b, bytes, hc⟩ := exists_encode_eq_cons c
    rw [encode_cons, hc, fitting, hc]
    split
    · next hfits =>
      have htake : ((b :: bytes) ++ encode s).take limit =
          b :: (bytes ++ (encode s).take (limit - (b :: bytes).length)) := by
        rw [List.take_append, List.take_of_length_le hfits, List.cons_append]
      have hrest := ih (limit - (b :: bytes).length)
      rw [decodeKeeping] at hrest ⊢
      rw [htake, chars, next_encode c hc, List.filterMap_cons, hrest]
      rfl
    · next hlong =>
      cases limit with
      | zero => simp [decodeKeeping, chars]
      | succ limit =>
        have hn : limit < bytes.length := by
          rw [List.length_cons] at hlong
          omega
        have htake : ((b :: bytes) ++ encode s).take (limit + 1) = b :: bytes.take limit := by
          rw [List.cons_append, List.take_succ_cons, List.take_append_of_le_length (Nat.le_of_lt hn)]
        rw [decodeKeeping, htake, chars, next_take c hc hn]
        simp [chars]

theorem fitting_isPrefix (limit : Nat) (s : List Char) : fitting limit s <+: s := by
  induction s generalizing limit with
  | nil => exact List.prefix_refl _
  | cons c s ih =>
    unfold fitting
    dsimp only
    split
    · exact List.cons_prefix_cons.2 ⟨rfl, ih _⟩
    · exact List.nil_prefix

theorem length_encode_fitting_le (limit : Nat) (s : List Char) : (encode (fitting limit s)).length ≤ limit := by
  induction s generalizing limit with
  | nil => exact Nat.zero_le _
  | cons c s ih =>
    unfold fitting
    dsimp only
    split
    · have := ih (limit - (String.utf8EncodeChar c).length)
      rw [encode_cons, List.length_append]
      omega
    · exact Nat.zero_le _

/-- What is left of the limit has no room for a character of four bytes. -/
theorem limit_le_length_encode_fitting {limit : Nat} {s : List Char} (h : limit < (encode s).length) :
    limit ≤ (encode (fitting limit s)).length + 3 := by
  induction s generalizing limit with
  | nil => simp at h
  | cons c s ih =>
    have hsize : (String.utf8EncodeChar c).length ≤ 4 := by
      rw [String.length_utf8EncodeChar]
      exact Char.utf8Size_le_four c
    rw [encode_cons, List.length_append] at h
    unfold fitting
    dsimp only
    split
    · have hrest := @ih (limit - (String.utf8EncodeChar c).length) (by omega)
      rw [encode_cons, List.length_append]
      omega
    · omega

/-- No initial part of the text that is written within the limit goes further. -/
theorem isPrefix_fitting {limit : Nat} {s other : List Char} (hinitial : other <+: s)
    (hother : (encode other).length ≤ limit) : other <+: fitting limit s := by
  induction s generalizing limit other with
  | nil => exact hinitial
  | cons c s ih =>
    cases other with
    | nil => exact List.nil_prefix
    | cons d other =>
      obtain ⟨rfl, hrest⟩ := List.cons_prefix_cons.1 hinitial
      rw [encode_cons, List.length_append] at hother
      unfold fitting
      dsimp only
      rw [if_pos (by omega)]
      exact List.cons_prefix_cons.2 ⟨rfl, ih hrest (by omega)⟩

theorem fitting_of_length_le {limit : Nat} {s : List Char} (h : (encode s).length ≤ limit) : fitting limit s = s :=
  (fitting_isPrefix limit s).eq_of_length_le (isPrefix_fitting (List.prefix_refl s) h).length_le

end ThermalPress.Utf8
