import Mathlib.Data.List.TakeWhile
import ThermalPress.Markup.Visible

/-!
# Taking out what looks like a tag

A stretch from a `<` goes to the first `>` behind it, and a `<` without one stays.  So text without a `<` stays as it
is (`withoutTags_append`), a stretch in front goes as a whole (`withoutTags_tag`), and behind a `>` the scan begins anew
whatever stands in front (`withoutTags_close`).  A tag is gone wherever it stands, also inside of a stretch that was
begun before it (`withoutTags_tag_sublist`).
-/

namespace ThermalPress

/-! ### The end of a stretch -/

theorem afterClose?_eq_some_iff {s rest : List Char} :
    afterClose? s = some rest ↔ ∃ u, '>' ∉ u ∧ s = u ++ '>' :: rest := by
  constructor
  · intro h
    have hsplit : s = s.takeWhile (· ≠ '>') ++ s.dropWhile (· ≠ '>') := List.takeWhile_append_dropWhile.symm
    have hfront : '>' ∉ s.takeWhile (· ≠ '>') := fun hmem => by simpa using List.mem_takeWhile_imp hmem
    unfold afterClose? at h
    split at h
    · cases h
    · next c tail hbehind =>
      have hc := List.head?_dropWhile_not (fun c : Char => decide (c ≠ '>')) s
      rw [hbehind] at hc hsplit
      simp only [List.head?_cons, decide_eq_false_iff_not, not_not] at hc
      cases h
      exact ⟨_, hfront, hc ▸ hsplit⟩
  · rintro ⟨u, hu, rfl⟩
    have hpass : ∀ c ∈ u, decide (c ≠ '>') = true := fun c hc => decide_eq_true (ne_of_mem_of_not_mem hc hu)
    have hbehind : (u ++ '>' :: rest).dropWhile (· ≠ '>') = '>' :: rest := by
      rw [List.dropWhile_append_of_pos hpass]
      simp
    unfold afterClose?
    rw [hbehind]

theorem afterClose?_eq_none_iff {s : List Char} : afterClose? s = none ↔ '>' ∉ s := by
  constructor
  · intro h hmem
    obtain ⟨u, rest, rfl, hu⟩ := List.eq_append_cons_of_mem hmem
    rw [afterClose?_eq_some_iff.2 ⟨u, hu, rfl⟩] at h
    cases h
  · intro hs
    cases h : afterClose? s with
    | none => rfl
    | some rest =>
      obtain ⟨u, -, rfl⟩ := afterClose?_eq_some_iff.1 h
      simp at hs

/-! ### One step of the scan -/

@[simp] theorem withoutTags_nil : withoutTags [] = [] := by rw [withoutTags]

theorem withoutTags_cons {c : Char} (hc : c ≠ '<') (s : List Char) : withoutTags (c :: s) = c :: withoutTags s := by
  rw [withoutTags, if_neg hc]

/-- A stretch goes as a whole. -/
theorem withoutTags_tag {u : List Char} (hu : '>' ∉ u) (rest : List Char) :
    withoutTags ('<' :: (u ++ '>' :: rest)) = withoutTags rest := by
  have hclose : afterClose? (u ++ '>' :: rest) = some rest := afterClose?_eq_some_iff.2 ⟨u, hu, rfl⟩
  rw [withoutTags, if_pos rfl]
  split
  · next rest' hrest =>
    rw [hclose, Option.some.injEq] at hrest
    rw [hrest]
  · next hnone =>
    rw [hclose] at hnone
    cases hnone

/-- A `<` that no `>` follows stays, with all that is behind it. -/
theorem withoutTags_unclosed {s : List Char} (hs : '>' ∉ s) : withoutTags ('<' :: s) = '<' :: s := by
  have hclose : afterClose? s = none := afterClose?_eq_none_iff.2 hs
  rw [withoutTags, if_pos rfl]
  split
  · next rest hrest =>
    rw [hclose] at hrest
    cases hrest
  · rfl

/-! ### Texts in pieces -/

/-- Text in front that begins no stretch stays as it is. -/
theorem withoutTags_append {a : List Char} (ha : '<' ∉ a) (b : List Char) :
    withoutTags (a ++ b) = a ++ withoutTags b := by
  induction a with
  | nil => rfl
  | cons c a ih =>
    rw [List.mem_cons, not_or] at ha
    rw [List.cons_append, withoutTags_cons (Ne.symm ha.1), ih ha.2, List.cons_append]

theorem withoutTags_sublist (s : List Char) : (withoutTags s).Sublist s := by
  induction s using withoutTags.induct with
  | case1 => simp
  | case2 s rest hrest ih =>
    obtain ⟨u, hu, rfl⟩ := afterClose?_eq_some_iff.1 hrest
    have hbehind : rest.Sublist ('<' :: (u ++ '>' :: rest)) :=
      ((List.sublist_cons_self ..).trans (List.sublist_append_right ..)).cons _
    rw [withoutTags_tag hu]
    exact ih.trans hbehind
  | case3 s hnone =>
    simp [withoutTags_unclosed (afterClose?_eq_none_iff.1 hnone)]
  | case4 c s hc ih =>
    rw [withoutTags_cons hc]
    exact ih.cons_cons c

/-- Behind a `>` the scan begins anew: no stretch is open there. -/
theorem withoutTags_close (a b : List Char) :
    withoutTags (a ++ '>' :: b) = withoutTags (a ++ ['>']) ++ withoutTags b := by
  have hclose : '>' ≠ '<' := by decide
  induction a using withoutTags.induct with
  | case1 =>
    rw [List.nil_append, List.nil_append, withoutTags_cons hclose, withoutTags_cons hclose, withoutTags_nil]
    rfl
  | case2 a rest hrest ih =>
    obtain ⟨u, hu, rfl⟩ := afterClose?_eq_some_iff.1 hrest
    simpa [withoutTags_tag hu] using ih
  | case3 a hnone =>
    -- the stretch is open up to this `>`
    have ha := afterClose?_eq_none_iff.1 hnone
    rw [List.cons_append, List.cons_append, withoutTags_tag ha, withoutTags_tag ha, withoutTags_nil, List.nil_append]
  | case4 c a hc ih =>
    rw [List.cons_append, List.cons_append, withoutTags_cons hc, withoutTags_cons hc, ih, List.cons_append]

/-- Of a text that ends in a tag, nothing of the tag is left. -/
theorem withoutTags_tag_sublist (a : List Char) {u : List Char} (hu : '>' ∉ u) :
    (withoutTags (a ++ '<' :: (u ++ ['>']))).Sublist a := by
  induction a using withoutTags.induct with
  | case1 =>
    simp [withoutTags_tag hu]
  | case2 a rest hrest ih =>
    obtain ⟨v, hv, rfl⟩ := afterClose?_eq_some_iff.1 hrest
    have hstretch : '<' :: (v ++ '>' :: rest) ++ '<' :: (u ++ ['>']) =
        '<' :: (v ++ '>' :: (rest ++ '<' :: (u ++ ['>']))) := by simp
    have hbehind : rest.Sublist ('<' :: (v ++ '>' :: rest)) :=
      ((List.sublist_cons_self ..).trans (List.sublist_append_right ..)).cons _
    rw [hstretch, withoutTags_tag hv]
    exact ih.trans hbehind
  | case3 a hnone =>
    -- the stretch that was open in front of the tag ends with it
    have hopen : '>' ∉ a ++ '<' :: u := by simp [afterClose?_eq_none_iff.1 hnone, hu]
    have hstretch : '<' :: a ++ '<' :: (u ++ ['>']) = '<' :: ((a ++ '<' :: u) ++ ['>']) := by simp
    rw [hstretch, withoutTags_tag hopen, withoutTags_nil]
    exact List.nil_sublist _
  | case4 c a hc ih =>
    rw [List.cons_append, withoutTags_cons hc]
    exact ih.cons_cons c

end ThermalPress
