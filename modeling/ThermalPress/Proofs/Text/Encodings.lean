import ThermalPress.Libraries.Encodings

/-!
# Codecs of code pages

A codec of a code page encodes every text, one byte for each character (`Codecs.IsPage`).  In all code pages ASCII
stands for itself, so the bytes of a text hold a control character only where the text does
(`CodePage.eq_of_encodeChar`).
-/

namespace ThermalPress.CodePage

theorem length_upper (page : CodePage) : page.upper.length = 128 := by
  cases page <;> rfl

/-- Besides the question mark, a byte of ASCII stands for nothing but its own character. -/
theorem eq_of_encodeChar {page : CodePage} {c : Char} (hlow : page.encodeChar c < 0x80)
    (hknown : page.encodeChar c ≠ 0x3F) : c.toNat = (page.encodeChar c).toNat := by
  unfold encodeChar byte? at hlow hknown ⊢
  by_cases hascii : c.toNat < 0x80
  · rw [if_pos hascii, Option.getD_some, UInt8.toNat_ofNat']
    omega
  · rw [if_neg hascii] at hlow hknown
    by_cases hundefined : c.toNat == undefinedCode
    · simp [hundefined] at hknown
    · rw [if_neg hundefined] at hlow hknown
      cases hindex : page.upper.idxOf? c.toNat with
      | none => simp [hindex] at hknown
      | some i =>
        have hi : i < 128 := by
          obtain ⟨hi, -⟩ := List.idxOf?_eq_some_iff.1 hindex
          rwa [length_upper] at hi
        simp only [hindex, Option.map_some, Option.getD_some, UInt8.lt_iff_toNat_lt, UInt8.toNat_ofNat',
          UInt8.reduceToNat] at hlow
        omega

theorem lineFeed_not_mem_encode (page : CodePage) {s : List Char} (hs : '\n' ∉ s) : 0x0A ∉ page.encode s := by
  intro hmem
  obtain ⟨c, hc, hbyte⟩ := List.mem_map.1 hmem
  have hcode : c.toNat = (page.encodeChar c).toNat :=
    eq_of_encodeChar (by rw [hbyte]; decide) (by rw [hbyte]; decide)
  rw [hbyte] at hcode
  have hfeed : c = '\n' := Char.toNat_inj.1 hcode
  exact hs (hfeed ▸ hc)

end ThermalPress.CodePage

namespace ThermalPress

/-- The name is that of a codec which writes and reads a code page. -/
structure Codecs.IsPage [Codecs] (name : String) (page : CodePage) : Prop where
  encode (s : List Char) : Codecs.encode name s = .ok (page.encode s)
  decode (bytes : Bytes) : Codecs.decode name bytes = .ok (page.decode bytes)

open scoped Libraries in
theorem isPage_cp437 : Codecs.IsPage "cp437" .ibm437 where
  encode _ := rfl
  decode _ := rfl

end ThermalPress
