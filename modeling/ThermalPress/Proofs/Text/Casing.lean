import Mathlib.Data.List.Basic
import ThermalPress.Number.Integer
import ThermalPress.Text.Casing

/-!
# Small letters

Small letters of texts whose only capital letters are ASCII letters.  The small form of such a text has the small form
of each character in its place (`lower_eq_map`).  Blanks and the digits of all scripts have no case
(`isAsciiCased_of_isBlank`, `isAsciiCased_of_decimalDigit?`).
-/

namespace ThermalPress

theorem toLower_of_not_capital {c : Char} (h : ¬ (0x41 ≤ c.toNat ∧ c.toNat ≤ 0x5A)) : c.toLower = c := dif_neg h

/-- What holds of each capital ASCII letter with its small letter, and of each character with itself, holds of each
character with its small form. -/
theorem toLower_induction {p : Char → Char → Prop}
    (hcapital : ∀ n < 26, p (Char.ofNat (0x41 + n)) (Char.ofNat (0x61 + n))) (hself : ∀ c, p c c) (c : Char) :
    p c c.toLower := by
  by_cases h : 0x41 ≤ c.toNat ∧ c.toNat ≤ 0x5A
  · have hsmall : ∀ n < 26, (Char.ofNat (0x41 + n)).toLower = Char.ofNat (0x61 + n) := by decide
    obtain ⟨n, hn⟩ := Nat.exists_eq_add_of_le h.1
    have hlt : n < 26 := by omega
    have hc : Char.ofNat (0x41 + n) = c := by rw [← hn, Char.ofNat_toNat]
    have hletter := hcapital n hlt
    rwa [← hsmall n hlt, hc] at hletter
  · rw [toLower_of_not_capital h]
    exact hself c

/-- Only letters have a small form that is not their own. -/
theorem toLower_eq_iff {k : Char} (hk : k.isAlpha = false) (c : Char) : c.toLower = k ↔ c = k := by
  refine toLower_induction (p := fun c lower => lower = k ↔ c = k) ?_ (fun _ => Iff.rfl) c
  have hletters : ∀ n < 26, (Char.ofNat (0x41 + n)).isAlpha = true ∧ (Char.ofNat (0x61 + n)).isAlpha = true := by
    decide
  intro n hn
  obtain ⟨hcapital, hsmall⟩ := hletters n hn
  constructor
  · rintro rfl
    rw [hk] at hsmall
    cases hsmall
  · rintro rfl
    rw [hk] at hcapital
    cases hcapital

/-- An ASCII character, or one without a small form of its own.  The dotted capital I and the capital sigma have other
small forms than those that are paired with them. -/
def IsAsciiCased (c : Char) : Prop := c.toNat < 0x80 ∨ pairedLower? c.toNat = none ∧ c ≠ 'İ' ∧ c ≠ 'Σ'

theorem IsAsciiCased.ne_sigma {c : Char} (h : IsAsciiCased c) : c ≠ 'Σ' := by
  rcases h with hascii | ⟨-, -, hsigma⟩
  · rintro rfl
    revert hascii
    decide
  · exact hsigma

theorem IsAsciiCased.lowerChar {c : Char} (h : IsAsciiCased c) : lowerChar c = [c.toLower] := by
  unfold ThermalPress.lowerChar
  by_cases hascii : c.toNat < 0x80
  · rw [if_pos hascii]
  · obtain ⟨hpair, hdotted, -⟩ := h.resolve_left hascii
    rw [if_neg hascii, if_neg (by simpa using hdotted), hpair, toLower_of_not_capital (by omega)]
    rfl

private theorem lowerAfter_eq_map {s : List Char} (h : ∀ c ∈ s, IsAsciiCased c) (before : Option Char) :
    lowerAfter before s = s.map Char.toLower := by
  induction s generalizing before with
  | nil => rfl
  | cons c s ih =>
    obtain ⟨hc, hs⟩ := List.forall_mem_cons.1 h
    have hsigma : (c == 'Σ') = false := beq_eq_false_iff_ne.2 hc.ne_sigma
    rw [lowerAfter, hsigma, Bool.false_and, if_neg Bool.false_ne_true, hc.lowerChar, ih hs]
    rfl

theorem lower_eq_map {s : List Char} (h : ∀ c ∈ s, IsAsciiCased c) : lower s = s.map Char.toLower :=
  lowerAfter_eq_map h none

/-! ### Blanks and digits -/

/-- Whether no capital letter of a run stands in a range. -/
private def isApart (first last : Nat) : Bool := lowerRuns.all fun run => last.blt run.1 || run.2.1.blt first

private theorem isAsciiCased_of_isApart {first last : Nat} (h : isApart first last = true) {c : Char}
    (hrange : first ≤ c.toNat ∧ c.toNat ≤ last) (hdotted : c ≠ 'İ') : IsAsciiCased c := by
  simp only [isApart, List.all_eq_true, Bool.or_eq_true, Nat.blt_eq] at h
  have hpair : pairedLower? c.toNat = none := by
    rw [pairedLower?, Option.map_eq_none_iff, List.find?_eq_none]
    rintro ⟨start, stop, step, distance⟩ hrun hmem
    have hapart : last < start ∨ stop < first := h _ hrun
    obtain ⟨⟨hstart, hstop⟩, -⟩ : (start ≤ c.toNat ∧ c.toNat ≤ stop) ∧ _ := by
      simpa only [Bool.and_eq_true, decide_eq_true_eq] using hmem
    omega
  refine .inr ⟨hpair, hdotted, ?_⟩
  rintro rfl
  revert hpair
  decide

/-- The blanks that are no ASCII characters stand in few places. -/
private def wideBlanks : List (Nat × Nat) :=
  [(0x85, 0x85), (0xA0, 0xA0), (0x1680, 0x1680), (0x2000, 0x200A), (0x2028, 0x202F), (0x205F, 0x205F), (0x3000, 0x3000)]

theorem isAsciiCased_of_isBlank {c : Char} (h : isBlank c = true) : IsAsciiCased c := by
  by_cases hascii : c.toNat < 0x80
  · exact .inl hascii
  have hplace : ∃ place ∈ wideBlanks, place.1 ≤ c.toNat ∧ c.toNat ≤ place.2 := by
    simp only [isBlank, Bool.or_eq_true, Bool.and_eq_true, decide_eq_true_eq, beq_iff_eq] at h
    simp only [wideBlanks, List.exists_mem_cons_iff, List.not_mem_nil, false_and, exists_false, or_false]
    omega
  obtain ⟨place, hplace, hrange⟩ := hplace
  have happart : ∀ place ∈ wideBlanks, isApart place.1 place.2 = true := by decide +kernel
  refine isAsciiCased_of_isApart (happart place hplace) hrange ?_
  rintro rfl
  revert h
  decide

theorem isAsciiCased_of_decimalDigit? {c : Char} {d : Nat} (h : Integer.decimalDigit? c = some d) :
    IsAsciiCased c := by
  have hdotted : c ≠ 'İ' := by
    rintro rfl
    cases h
  rw [Integer.decimalDigit?, Option.map_eq_some_iff] at h
  obtain ⟨first, hfind, -⟩ := h
  have hrange : first ≤ c.toNat ∧ c.toNat < first + 10 := by simpa using List.find?_some hfind
  have happart : ∀ first ∈ Integer.zeros, isApart first (first + 9) = true := by decide +kernel
  exact isAsciiCased_of_isApart (happart first (List.mem_of_find?_eq_some hfind)) (by omega) hdotted

end ThermalPress
