import Mathlib.Tactic.Ring
import ThermalPress.Text.Utf8

/-!
# Lengths of UTF-8 texts

A character is never read from fewer bytes than it is written in (`length_encode_next_le`).  So dropping the ill-formed
runs of a byte string and writing down what is left makes it no longer (`length_encode_decodeKeeping_le`).
-/

namespace ThermalPress.Utf8

/-- The number of bytes of a character by the bound that its code point is below. -/
private theorem utf8Size_le (c : Char) :
    (c.toNat < 0x80 → c.utf8Size = 1) ∧ (c.toNat < 0x800 → c.utf8Size ≤ 2) ∧
      (c.toNat < 0x10000 → c.utf8Size ≤ 3) ∧ c.utf8Size ≤ 4 := by
  have hval : c.val.toNat = c.toNat := rfl
  unfold Char.utf8Size
  simp only [UInt32.le_iff_toNat_le, hval]
  refine ⟨?_, ?_, ?_, ?_⟩ <;> intros <;> split <;> (try split) <;> (try split) <;> simp_all <;> omega

private theorem toNat_ofNat_le (n : Nat) : (Char.ofNat n).toNat ≤ n := by
  by_cases hvalid : n.isValidChar
  · rw [show Char.ofNat n = Char.ofNatAux n hvalid from dif_pos hvalid]
    exact Nat.le_refl n
  · rw [show Char.ofNat n = '\x00' from dif_neg hvalid]
    exact Nat.zero_le n

/-- A character takes as many continuation bytes as its first byte announces, and has six bits for each of them. -/
private theorem continuation_eq_some {further : Nat} {low high : UInt8} {bits code : Nat} {bytes rest : Bytes}
    (h : continuation further low high bits bytes = (some code, rest)) :
    code < (bits + 1) * 64 ^ further ∧ rest.length + further = bytes.length := by
  induction further generalizing low high bits bytes with
  | zero =>
    simp only [continuation, Prod.mk.injEq, Option.some.injEq] at h
    obtain ⟨rfl, rfl⟩ := h
    simp
  | succ further ih =>
    cases bytes with
    | nil => simp [continuation] at h
    | cons b bytes =>
      simp only [continuation] at h
      split at h
      · obtain ⟨hcode, hlength⟩ := ih h
        have hstep : (bits * 64 + b.toNat % 64 + 1) * 64 ^ further ≤ (bits + 1) * 64 * 64 ^ further :=
          Nat.mul_le_mul_right _ (by omega)
        refine ⟨?_, by rw [List.length_cons]; omega⟩
        calc code < (bits * 64 + b.toNat % 64 + 1) * 64 ^ further := hcode
          _ ≤ (bits + 1) * 64 * 64 ^ further := hstep
          _ = (bits + 1) * 64 ^ (further + 1) := by ring
      · simp at h

/-- The bits of a first byte leave room for no more than the continuation bytes can hold. -/
private theorem lead_bits {b : UInt8} {lead : Lead} (h : lead? b = some lead) :
    (lead.further = 1 ∧ lead.bits < 32) ∨ (lead.further = 2 ∧ lead.bits < 16) ∨ lead.further = 3 := by
  unfold lead? at h
  grind

/-- A character that is read takes at least the bytes that it is written in. -/
theorem length_encode_next_le {b : UInt8} {rest left : Bytes} {c : Char} (h : next b rest = (some c, left)) :
    (String.utf8EncodeChar c).length + left.length ≤ rest.length + 1 := by
  rw [String.length_utf8EncodeChar]
  unfold next at h
  split at h
  · next hascii =>
    simp only [Prod.mk.injEq, Option.some.injEq] at h
    obtain ⟨rfl, rfl⟩ := h
    have hb : b.toNat < 0x80 := UInt8.lt_iff_toNat_lt.1 hascii
    have hc := toNat_ofNat_le b.toNat
    have hsize := (utf8Size_le (Char.ofNat b.toNat)).1 (by omega)
    omega
  · split at h
    · simp at h
    · next lead hlead =>
      cases hcode : continuation lead.further lead.low lead.high lead.bits rest with
      | mk code left' =>
        simp only [hcode, Prod.mk.injEq, Option.map_eq_some_iff] at h
        obtain ⟨⟨n, rfl, rfl⟩, rfl⟩ := h
        obtain ⟨hbound, hlength⟩ := continuation_eq_some hcode
        have hc := toNat_ofNat_le n
        obtain ⟨-, htwo, hthree, hfour⟩ := utf8Size_le (Char.ofNat n)
        rcases lead_bits hlead with ⟨hfurther, hbits⟩ | ⟨hfurther, hbits⟩ | hfurther
        · rw [hfurther] at hbound hlength
          have hsize := htwo (by omega)
          omega
        · rw [hfurther] at hbound hlength
          have hsize := hthree (by omega)
          omega
        · omega

/-- What is left of bytes without their ill-formed runs is written in no more bytes. -/
theorem length_encode_decodeKeeping_le (bytes : Bytes) : (encode (decodeKeeping bytes)).length ≤ bytes.length := by
  unfold encode decodeKeeping
  fun_induction chars bytes with
  | case1 => simp
  | case2 b rest ih =>
    cases hnext : next b rest with
    | mk c left =>
      rw [hnext] at ih
      have hleft := length_next b rest
      rw [hnext] at hleft
      cases c with
      | none =>
        simp only [List.filterMap_cons, id_eq, List.length_cons] at ih hleft ⊢
        omega
      | some c =>
        have hc := length_encode_next_le hnext
        simp only [List.filterMap_cons, id_eq, List.flatMap_cons, List.length_append, List.length_cons] at ih ⊢
        omega

end ThermalPress.Utf8
