import ThermalPress.Proofs.Markup.Reading
import ThermalPress.Proofs.Markup.Visible

/-!
# What the scan for tags leaves

A stretch of a text is a `<`, what stands behind it, and the nearest `>`.  To strip a text is to take out the stretch
that begins at the first `<`, then to go on behind it, until no `<` has a `>` behind it (`Stripped`).  The scan does this
and nothing else (`stripped_iff`).  Two texts around a stretch never make up a new one, so what is left holds no stretch
(`not_holdsStretch_withoutTags`) and is left as it is by a second scan (`withoutTags_of_not_holdsStretch`).

The scan knows nothing of tokens, but it agrees with them: where no text token holds a `<`, it leaves exactly the tokens
that are no tags (`withoutTags_rawText_filter`).
-/

namespace ThermalPress

/-- Some `<` of the text has a `>` behind it. -/
def HoldsStretch (s : List Char) : Prop := ∃ front behind, s = front ++ '<' :: behind ∧ '>' ∈ behind

/-- What is left of a text when stretches are taken out of it, from the first one on, until it holds none. -/
inductive Stripped : List Char → List Char → Prop where
  | rest {s : List Char} (h : ¬ HoldsStretch s) : Stripped s s
  | stretch {front inner rest left : List Char} (hfront : '<' ∉ front) (hinner : '>' ∉ inner)
      (h : Stripped rest left) : Stripped (front ++ '<' :: (inner ++ '>' :: rest)) (front ++ left)

/-! ### Texts that hold no stretch -/

theorem holdsStretch_cons_iff {c : Char} {s : List Char} :
    HoldsStretch (c :: s) ↔ (c = '<' ∧ '>' ∈ s) ∨ HoldsStretch s := by
  constructor
  · rintro ⟨front, behind, hs, hclose⟩
    cases front with
    | nil =>
      simp only [List.nil_append, List.cons.injEq] at hs
      obtain ⟨rfl, rfl⟩ := hs
      exact .inl ⟨rfl, hclose⟩
    | cons d front =>
      simp only [List.cons_append, List.cons.injEq] at hs
      exact .inr ⟨front, behind, hs.2, hclose⟩
  · rintro (⟨rfl, hclose⟩ | ⟨front, behind, rfl, hclose⟩)
    · exact ⟨[], s, rfl, hclose⟩
    · exact ⟨c :: front, behind, rfl, hclose⟩

theorem not_holdsStretch_of_not_mem {s : List Char} (hs : '>' ∉ s) : ¬ HoldsStretch s := by
  rintro ⟨front, behind, rfl, hclose⟩
  exact hs (by simp [hclose])

/-- Of a text that holds no stretch, the scan leaves everything. -/
theorem withoutTags_of_not_holdsStretch {s : List Char} (hs : ¬ HoldsStretch s) : withoutTags s = s := by
  induction s with
  | nil => exact withoutTags_nil
  | cons c s ih =>
    rw [holdsStretch_cons_iff, not_or] at hs
    by_cases hc : c = '<'
    · subst hc
      exact withoutTags_unclosed fun hclose => hs.1 ⟨rfl, hclose⟩
    · rw [withoutTags_cons hc, ih hs.2]

/-- What the scan leaves holds no stretch. -/
theorem not_holdsStretch_withoutTags (s : List Char) : ¬ HoldsStretch (withoutTags s) := by
  induction s using withoutTags.induct with
  | case1 =>
    rw [withoutTags_nil]
    exact not_holdsStretch_of_not_mem List.not_mem_nil
  | case2 s rest hrest ih =>
    obtain ⟨inner, hinner, rfl⟩ := afterClose?_eq_some_iff.1 hrest
    rwa [withoutTags_tag hinner]
  | case3 s hnone =>
    have hs := afterClose?_eq_none_iff.1 hnone
    rw [withoutTags_unclosed hs]
    exact not_holdsStretch_of_not_mem (by simp [hs])
  | case4 c s hc ih =>
    rw [withoutTags_cons hc, holdsStretch_cons_iff, not_or]
    exact ⟨fun hopen => hc hopen.1, ih⟩

/-! ### Stripping a text -/

private theorem Stripped.cons {c : Char} (hc : c ≠ '<') {s left : List Char} (h : Stripped s left) :
    Stripped (c :: s) (c :: left) := by
  cases h with
  | rest h =>
    refine .rest fun hholds => ?_
    rcases holdsStretch_cons_iff.1 hholds with ⟨hopen, -⟩ | hholds
    · exact hc hopen
    · exact h hholds
  | @stretch front inner rest left hfront hinner h =>
    have hfront : '<' ∉ c :: front := by simp [Ne.symm hc, hfront]
    exact .stretch hfront hinner h

theorem stripped_withoutTags (s : List Char) : Stripped s (withoutTags s) := by
  induction s using withoutTags.induct with
  | case1 =>
    rw [withoutTags_nil]
    exact .rest (not_holdsStretch_of_not_mem List.not_mem_nil)
  | case2 s rest hrest ih =>
    obtain ⟨inner, hinner, rfl⟩ := afterClose?_eq_some_iff.1 hrest
    rw [withoutTags_tag hinner]
    exact .stretch List.not_mem_nil hinner ih
  | case3 s hnone =>
    have hs := afterClose?_eq_none_iff.1 hnone
    rw [withoutTags_unclosed hs]
    exact .rest (not_holdsStretch_of_not_mem (by simp [hs]))
  | case4 c s hc ih =>
    rw [withoutTags_cons hc]
    exact ih.cons hc

/-- There is one thing that can be left of a text, and the scan finds it. -/
theorem stripped_iff {s left : List Char} : Stripped s left ↔ left = withoutTags s := by
  constructor
  · intro h
    induction h with
    | rest h => exact (withoutTags_of_not_holdsStretch h).symm
    | stretch hfront hinner _ ih => rw [withoutTags_append hfront, withoutTags_tag hinner, ih]
  · rintro rfl
    exact stripped_withoutTags s

/-- A text from a `<` to its only `>` at the end. -/
private theorem exists_eq_angled {s : List Char} (hfirst : s.head? = some '<') (hlast : s.getLast? = some '>')
    (honly : s.count '>' = 1) : ∃ inner, '>' ∉ inner ∧ s = angled inner := by
  obtain ⟨behind, rfl⟩ := List.head?_eq_some_iff.1 hfirst
  obtain ⟨front, hfront⟩ := List.getLast?_eq_some_iff.1 hlast
  cases front with
  | nil => simp at hfront
  | cons c inner =>
    simp only [List.cons_append, List.cons.injEq] at hfront
    obtain ⟨-, rfl⟩ := hfront
    refine ⟨inner, List.count_eq_zero.1 ?_, rfl⟩
    simpa using honly

/-! ### Stripping the characters of tokens -/

/-- If the tokens that are kept hold no `<` and all others are spelled as tags, the scan leaves those that are kept. -/
theorem withoutTags_rawText_filter {keep : Token → Bool} {tokens : List Token}
    (hkept : ∀ t ∈ tokens, keep t = true → '<' ∉ t.raw)
    (htags : ∀ t ∈ tokens, keep t = false → ∃ inner, '>' ∉ inner ∧ t.raw = angled inner) :
    withoutTags (rawText tokens) = rawText (tokens.filter keep) := by
  induction tokens with
  | nil => simp [rawText]
  | cons t tokens ih =>
    have hrest := ih (fun u hu => hkept u (List.mem_cons_of_mem _ hu)) fun u hu => htags u (List.mem_cons_of_mem _ hu)
    have hsplit : rawText (t :: tokens) = t.raw ++ rawText tokens := by simp [rawText]
    cases ht : keep t with
    | true =>
      have hfilter : rawText ((t :: tokens).filter keep) = t.raw ++ rawText (tokens.filter keep) := by
        simp [rawText, ht]
      rw [hsplit, withoutTags_append (hkept t (List.mem_cons_self ..) ht), hrest, hfilter]
    | false =>
      obtain ⟨inner, hinner, hraw⟩ := htags t (List.mem_cons_self ..) ht
      have htag : t.raw ++ rawText tokens = '<' :: (inner ++ '>' :: rawText tokens) := by simp [hraw, angled]
      rw [hsplit, htag, withoutTags_tag hinner, hrest, List.filter_cons_of_neg (by simp [ht])]

/-- Whether a token is text or a line end. -/
def Token.isUntagged (t : Token) : Bool := t.kind = .text || t.kind = .newline

private theorem TagSpelling.isUntagged_eq_false {t : Token} {inner : List Char} (h : TagSpelling inner (.ok t.kind)) :
    t.isUntagged = false := by
  obtain ⟨kind, raw⟩ := t
  cases h with
  | named closing name => cases name <;> cases closing <;> rfl
  | lineBreak => rfl

/-- A token that is text or a line end by its kind is so by its characters. -/
private theorem Token.ReadFrom.untagged {t : Token} (h : t.ReadFrom) (ht : t.isUntagged = true) : t.Untagged := by
  rcases h with ⟨inner, -, hspelling⟩ | huntagged
  · rw [hspelling.isUntagged_eq_false] at ht
    cases ht
  · exact huntagged

private theorem Token.ReadFrom.exists_angled {t : Token} (h : t.ReadFrom) (ht : t.isUntagged = false) :
    ∃ inner, '>' ∉ inner ∧ t.raw = angled inner := by
  rcases h with ⟨inner, hraw, hspelling⟩ | rfl | ⟨htext, -, -⟩
  · exact ⟨inner, hspelling.not_mem.2, hraw⟩
  · cases ht
  · simp [Token.isUntagged, htext] at ht

/-- The scan takes out of any text, from the left, each stretch from a `<` to the nearest `>`, and nothing else.  It
leaves part of the text, in its order, in which no `<` has a `>` behind it, so a second scan changes nothing.  Text
without a `<` in front is left as it is, and a stretch in front is gone.  Where no text token of a document holds a `<`,
the scan leaves its text and its line ends. -/
theorem withoutTags_strips :
    (∀ s left, Stripped s left ↔ left = withoutTags s) ∧
    (∀ s, (withoutTags s).Sublist s ∧ ¬ HoldsStretch (withoutTags s) ∧ withoutTags (withoutTags s) = withoutTags s) ∧
    (∀ front rest, '<' ∉ front → withoutTags (front ++ rest) = front ++ withoutTags rest) ∧
    (∀ stretch rest : List Char, stretch.head? = some '<' → stretch.getLast? = some '>' → stretch.count '>' = 1 →
      withoutTags (stretch ++ rest) = withoutTags rest) ∧
    ∀ document tokens, readTokens document = .ok tokens → (∀ t ∈ tokens, t.kind = .text → '<' ∉ t.raw) →
      withoutTags (unifyLineEnds document) = rawText (tokens.filter Token.isUntagged) := by
  refine ⟨fun s left => stripped_iff, fun s => ?_, fun front rest hfront => withoutTags_append hfront rest, ?_, ?_⟩
  · have hleft := not_holdsStretch_withoutTags s
    exact ⟨withoutTags_sublist s, hleft, withoutTags_of_not_holdsStretch hleft⟩
  · intro stretch rest hfirst hlast honly
    obtain ⟨inner, hinner, rfl⟩ := exists_eq_angled hfirst hlast honly
    simpa [angled] using withoutTags_tag hinner rest
  · intro document tokens hread hangles
    obtain ⟨hspelled, hreadFrom⟩ := rawText_of_scan hread
    rw [← hspelled]
    refine withoutTags_rawText_filter (fun t ht huntagged => ?_)
      fun t ht htagged => (hreadFrom t ht).exists_angled htagged
    rcases (hreadFrom t ht).untagged huntagged with rfl | ⟨htext, -, -⟩
    · decide
    · exact hangles t ht htext

/-- A `>` outside of a stretch is text, a line break may hold a line end, and a stray `<` goes with the stretch that it
stands in. -/
theorem withoutTags_strips_break :
    (∃ tokens, readTokens "a>b<b>c</b>\r\n<br\n/>d".toList = .ok tokens ∧
      (∀ t ∈ tokens, t.kind = .text → '<' ∉ t.raw) ∧
      withoutTags (unifyLineEnds "a>b<b>c</b>\r\n<br\n/>d".toList) = rawText (tokens.filter Token.isUntagged) ∧
      rawText (tokens.filter Token.isUntagged) = "a>bc\nd".toList) ∧
    '<' ∉ "a>".toList ∧ "<a<b>".toList.count '>' = 1 ∧
    withoutTags ("a>".toList ++ ("<a<b>".toList ++ ">c<".toList)) = "a>>c<".toList := by
  obtain ⟨-, -, hfront, hstretch, hdocument⟩ := withoutTags_strips
  have hread : readTokens "a>b<b>c</b>\r\n<br\n/>d".toList =
      .ok [⟨.text, "a>b".toList⟩, ⟨.bold true, "<b>".toList⟩, ⟨.text, ['c']⟩, ⟨.bold false, "</b>".toList⟩,
        ⟨.newline, ['\n']⟩, ⟨.lineBreak, "<br\n/>".toList⟩, ⟨.text, ['d']⟩] := by decide +kernel
  have hangles : ∀ t ∈ [⟨.text, "a>b".toList⟩, ⟨.bold true, "<b>".toList⟩, ⟨.text, ['c']⟩,
      ⟨.bold false, "</b>".toList⟩, ⟨.newline, ['\n']⟩, ⟨.lineBreak, "<br\n/>".toList⟩, (⟨.text, ['d']⟩ : Token)],
      t.kind = .text → '<' ∉ t.raw := by decide
  refine ⟨⟨_, hread, hangles, hdocument _ _ hread hangles, by decide⟩, by decide, by decide, ?_⟩
  rw [hfront _ _ (by decide), hstretch _ _ rfl rfl (by decide)]
  decide +kernel

end ThermalPress
