import ThermalPress.Text.CodePoint

/-!
# Texts with surrogates

A text has bytes exactly if it is one of characters (`Utf8.encodeStrict_eq_ok_iff`), which is to say that no half of a
surrogate pair stands in it (`CodePoint.exists_ofChars_iff`).
-/

namespace ThermalPress

namespace CodePoint

theorem mapM_char?_eq_some_iff {s : List CodePoint} {characters : List Char} :
    s.mapM char? = some characters ↔ s = ofChars characters := by
  induction s generalizing characters with
  | nil => cases characters <;> simp [ofChars]
  | cons p s ih =>
    cases p with
    | char c =>
      have hcons : (char c :: s).mapM char? = (s.mapM char?).map (c :: ·) := by
        rw [List.mapM_cons]
        cases s.mapM char? <;> rfl
      rw [hcons, Option.map_eq_some_iff]
      constructor
      · rintro ⟨others, hothers, rfl⟩
        rw [ih.1 hothers]
        rfl
      · intro h
        cases characters with
        | nil => cases h
        | cons d others =>
          obtain ⟨hfirst, hothers⟩ := List.cons.inj h
          cases hfirst
          exact ⟨others, ih.2 hothers, rfl⟩
    | surrogate n => cases characters <;> simp [ofChars, char?]

theorem surrogate_not_mem_ofChars (n : Fin 0x800) (characters : List Char) :
    surrogate n ∉ ofChars characters := by
  simp [ofChars]

/-- A text without surrogates is one of characters. -/
theorem exists_ofChars_iff {s : List CodePoint} :
    (∃ characters, s = ofChars characters) ↔ ∀ n, surrogate n ∉ s := by
  constructor
  · rintro ⟨characters, rfl⟩ n
    exact surrogate_not_mem_ofChars n characters
  · intro h
    induction s with
    | nil => exact ⟨[], rfl⟩
    | cons p s ih =>
      obtain ⟨characters, rfl⟩ := ih fun n hn => h n (List.mem_cons_of_mem _ hn)
      cases p with
      | char c => exact ⟨c :: characters, rfl⟩
      | surrogate n => exact absurd (List.mem_cons_self ..) (h n)

end CodePoint

namespace Utf8

theorem encodeStrict_ofChars (characters : List Char) :
    encodeStrict (CodePoint.ofChars characters) = .ok (encode characters) := by
  rw [encodeStrict, CodePoint.mapM_char?_eq_some_iff.2 rfl]

/-- Nothing but a text of characters has bytes. -/
theorem encodeStrict_eq_ok_iff {s : List CodePoint} {bytes : Bytes} : encodeStrict s = .ok bytes ↔
    ∃ characters, s = CodePoint.ofChars characters ∧ bytes = encode characters := by
  constructor
  · intro h
    rw [encodeStrict] at h
    split at h
    · next characters hcharacters =>
      exact ⟨characters, CodePoint.mapM_char?_eq_some_iff.1 hcharacters, (Except.ok.inj h).symm⟩
    · cases h
  · rintro ⟨characters, rfl, rfl⟩
    exact encodeStrict_ofChars characters

/-- What has no bytes is not without surrogates. -/
theorem exists_surrogate_of_encodeStrict {s : List CodePoint} {e : SurrogateError} (h : encodeStrict s = .error e) :
    ¬ ∀ n, CodePoint.surrogate n ∉ s := by
  intro hclean
  obtain ⟨characters, rfl⟩ := CodePoint.exists_ofChars_iff.2 hclean
  rw [encodeStrict_ofChars] at h
  cases h

end Utf8

end ThermalPress
