import Mathlib.Data.List.GetD
import Mathlib.Data.List.Nodup
import ThermalPress.Proofs.Text.Encodings

/-!
# Code pages without gaps

In a code page without gaps (`CodePage.Complete`) every byte stands for a character of its own.  A character that was
read from a byte is then written as the same byte (`encodeChar_decodeByte`), and no question mark comes in.  The
printer's default page is one of them (`complete_ibm437`).
-/

namespace ThermalPress.CodePage

/-- Every byte stands for a character, and no two for the same one. -/
structure Complete (page : CodePage) : Prop where
  defined : undefinedCode ∉ page.upper
  nodup : page.upper.Nodup

theorem complete_ibm437 : Complete .ibm437 where
  defined := by decide
  nodup := by decide +kernel

private theorem code_ofNat {n : Nat} (h : n.isValidChar) : (Char.ofNat n).toNat = n := by
  rw [Char.ofNat, dif_pos h]
  rfl

/-- The further characters of a page are characters, and none of them is ASCII. -/
theorem isValidChar_of_mem_upper {page : CodePage} {code : Nat} (h : code ∈ page.upper) :
    0x80 ≤ code ∧ code.isValidChar := by
  have hall : ∀ code ∈ page.upper, 0x80 ≤ code ∧ code.isValidChar := by
    cases page <;> decide +kernel
  exact hall code h

section Complete

variable {page : CodePage}

theorem idxOf?_upper (hpage : page.Complete) {i : Nat} (hi : i < page.upper.length) :
    page.upper.idxOf? page.upper[i] = some i := by
  refine List.idxOf?_eq_some_iff.2 ⟨hi, rfl, ?_⟩
  intro j hj heq
  have hij : j = i := hpage.nodup.getElem_inj_iff.1 heq
  omega

theorem encodeChar_decodeByte (hpage : page.Complete) (b : UInt8) : page.encodeChar (page.decodeByte b) = b := by
  unfold decodeByte
  split
  · next hascii =>
    have hlow : b.toNat < 0x80 := UInt8.lt_iff_toNat_lt.1 hascii
    have hcode : (Char.ofNat b.toNat).toNat = b.toNat := code_ofNat (.inl (by omega))
    rw [encodeChar, byte?, hcode, if_pos hlow, Option.getD_some, UInt8.ofNat_toNat]
  · next hupper =>
    have hhigh : 0x80 ≤ b.toNat := Nat.le_of_not_lt fun hlow => hupper (UInt8.lt_iff_toNat_lt.2 hlow)
    have hi : b.toNat - 0x80 < page.upper.length := by
      have hbyte := b.toNat_lt
      rw [length_upper]
      omega
    have hindex := idxOf?_upper hpage hi
    have hmem := List.getElem_mem hi
    rw [List.getD_eq_getElem _ _ hi]
    generalize page.upper[b.toNat - 0x80] = code at hindex hmem
    obtain ⟨hcode, hvalid⟩ := isValidChar_of_mem_upper hmem
    have hdefined : ¬ code == undefinedCode := fun heq => hpage.defined (eq_of_beq heq ▸ hmem)
    have hbyte : 0x80 + (b.toNat - 0x80) = b.toNat := by omega
    rw [encodeChar, byte?, code_ofNat hvalid, if_neg (by omega), if_neg hdefined, hindex,
      Option.map_some, Option.getD_some, hbyte, UInt8.ofNat_toNat]

theorem decodeByte_inj (hpage : page.Complete) {b b' : UInt8} : page.decodeByte b = page.decodeByte b' ↔ b = b' := by
  constructor
  · intro h
    rw [← encodeChar_decodeByte hpage b, h, encodeChar_decodeByte hpage]
  · exact congrArg _

end Complete

end ThermalPress.CodePage
