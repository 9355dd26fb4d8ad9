import ThermalPress.Proofs.Markup.Seams
import ThermalPress.Proofs.Markup.Spellings

/-!
# What a document is read as

The tokens of a document spell it out: they are its tags, wherever one is spelled, its line ends, and text for
everything else (`ReadsAs`).  The only documents without tokens are those with a tag that is recognised but names
nothing (`readTokens_of_holdsUnknownTag`, `readTokens_of_not_holdsUnknownTag`).
-/

namespace ThermalPress

/-! ### Tags of a text -/

/-- The tag is one of the tokens, behind those of what stands in front of it. -/
def StandsBehind (before inner : List Char) (kind : Except UnknownTag TokenKind) (tokens : List Token) : Prop :=
  ∃ tag front back, kind = .ok tag ∧ tokens = front ++ ⟨tag, angled inner⟩ :: back ∧ rawText front = before

section StandsBehind

variable {before inner : List Char} {kind : Except UnknownTag TokenKind} {tokens : List Token}

theorem TagSpelling.ne_text {tag : TokenKind} (h : TagSpelling inner (.ok tag)) : tag ≠ .text := by
  cases h with
  | named closing name => cases name <;> cases closing <;> simp [TagName.kind]
  | lineBreak => simp

private theorem StandsBehind.cons (t : Token) (h : StandsBehind before inner kind tokens) :
    StandsBehind (t.raw ++ before) inner kind (t :: tokens) := by
  obtain ⟨tag, front, back, htag, rfl, rfl⟩ := h
  exact ⟨tag, t :: front, back, htag, rfl, rfl⟩

private theorem StandsBehind.consChar (c : Char) (hspelling : TagSpelling inner kind)
    (h : StandsBehind before inner kind tokens) : StandsBehind (c :: before) inner kind (consChar c tokens) := by
  obtain ⟨tag, front, back, rfl, rfl, rfl⟩ := h
  exact ⟨tag, ThermalPress.consChar c front, back, rfl, consChar_append hspelling.ne_text c front back,
    rawText_consChar c front⟩

end StandsBehind

/-- An angle behind another tag's own ones stands behind that tag. -/
private theorem exists_behind_close {u v b after : List Char} (hu : '<' ∉ u) (h : u ++ '>' :: v = b ++ '<' :: after) :
    ∃ w, b = u ++ '>' :: w ∧ v = w ++ '<' :: after := by
  rcases List.append_eq_append_iff.1 h with ⟨w, hb, hw⟩ | ⟨w, rfl, hw⟩
  · cases w with
    | nil => simp at hw
    | cons c w =>
      simp only [List.cons_append, List.cons.injEq] at hw
      obtain ⟨rfl, rfl⟩ := hw
      exact ⟨w, hb, rfl⟩
  · cases w with
    | nil => simp at hw
    | cons c w =>
      simp only [List.cons_append, List.cons.injEq] at hw
      obtain ⟨rfl, -⟩ := hw
      simp at hu

/-- Wherever a tag is spelled in a text that has tokens, it is one of them. -/
theorem standsBehind_of_scan {s before inner after : List Char} {kind : Except UnknownTag TokenKind}
    {tokens : List Token} (hspelling : TagSpelling inner kind) (hs : s = before ++ (angled inner ++ after))
    (h : scan s = .ok tokens) : StandsBehind before inner kind tokens := by
  have hrest : angled inner ++ after = '<' :: (inner ++ '>' :: after) := by simp [angled]
  rw [hrest] at hs
  induction s using scan.induct generalizing before tokens with
  | case1 => simp at hs
  | case2 rest found hfound ih =>
    rw [scan_tag hfound] at h
    simp only [bind_eq_ok_iff, pure_eq_ok_iff] at h
    obtain ⟨tag, htag, others, hothers, rfl⟩ := h
    cases before with
    | nil =>
      obtain rfl : rest = inner ++ '>' :: after := by simpa using hs
      rw [hspelling.takeTag?, Option.some.injEq] at hfound
      subst hfound
      exact ⟨tag, [], others, htag, rfl, rfl⟩
    | cons c before =>
      simp only [List.cons_append, List.cons.injEq] at hs
      obtain ⟨rfl, hs⟩ := hs
      obtain ⟨u, v, rfl, hu⟩ := List.eq_append_cons_of_mem (mem_of_takeTag? hfound)
      obtain ⟨hraw, rfl, hfirst⟩ := spelling_of_takeTag? hu hfound
      obtain ⟨w, rfl, hbehind⟩ := exists_behind_close hfirst.not_mem.1 hs
      have hstands := (ih hbehind hothers).cons ⟨tag, found.raw⟩
      simpa [hraw, angled] using hstands
  | case3 rest hnone ih =>
    rw [scan_open hnone, map_eq_ok_iff] at h
    obtain ⟨others, hothers, rfl⟩ := h
    cases before with
    | nil =>
      obtain rfl : rest = inner ++ '>' :: after := by simpa using hs
      rw [hspelling.takeTag?] at hnone
      cases hnone
    | cons c before =>
      simp only [List.cons_append, List.cons.injEq] at hs
      obtain ⟨rfl, hs⟩ := hs
      exact (ih hs hothers).consChar '<' hspelling
  | case4 rest hopen ih =>
    rw [scan_lineFeed, map_eq_ok_iff] at h
    obtain ⟨others, hothers, rfl⟩ := h
    cases before with
    | nil => simp at hs
    | cons c before =>
      simp only [List.cons_append, List.cons.injEq] at hs
      obtain ⟨rfl, hs⟩ := hs
      exact (ih hs hothers).cons lineFeedToken
  | case5 c rest hopen hfeed ih =>
    rw [scan_char hopen hfeed, map_eq_ok_iff] at h
    obtain ⟨others, hothers, rfl⟩ := h
    cases before with
    | nil => simp [hopen] at hs
    | cons d before =>
      simp only [List.cons_append, List.cons.injEq] at hs
      obtain ⟨rfl, hs⟩ := hs
      exact (ih hs hothers).consChar c hspelling

/-! ### What the tokens are -/

/-- A line end, or a stretch of text on one line. -/
def Token.Untagged (t : Token) : Prop := t = lineFeedToken ∨ (t.kind = .text ∧ t.raw ≠ [] ∧ '\n' ∉ t.raw)

/-- A token of a text: a tag as it is spelled, or none. -/
def Token.ReadFrom (t : Token) : Prop :=
  (∃ inner, t.raw = angled inner ∧ TagSpelling inner (.ok t.kind)) ∨ t.Untagged

private theorem readFrom_consChar {c : Char} (hc : c ≠ '\n') {tokens : List Token} (h : ∀ t ∈ tokens, t.ReadFrom) :
    ∀ t ∈ consChar c tokens, t.ReadFrom := by
  intro t ht
  unfold consChar at ht
  split at ht
  · next raw tokens =>
    rcases List.mem_cons.1 ht with rfl | ht
    · rcases h ⟨.text, raw⟩ (List.mem_cons_self ..) with ⟨_, -, htag⟩ | hfeed | ⟨-, -, hraw⟩
      · exact absurd rfl htag.ne_text
      · cases hfeed
      · exact .inr (.inr ⟨rfl, by simp, by simpa [Ne.symm hc] using hraw⟩)
    · exact h t (List.mem_cons_of_mem _ ht)
  · rcases List.mem_cons.1 ht with rfl | ht
    · exact .inr (.inr ⟨rfl, by simp, by simpa using Ne.symm hc⟩)
    · exact h t ht

/-- The tokens of a text spell it out. -/
theorem rawText_of_scan {s : List Char} {tokens : List Token} (h : scan s = .ok tokens) :
    rawText tokens = s ∧ ∀ t ∈ tokens, t.ReadFrom := by
  induction s using scan.induct generalizing tokens with
  | case1 =>
    rw [scan, Except.ok.injEq] at h
    subst h
    simp [rawText]
  | case2 rest found hfound ih =>
    rw [scan_tag hfound] at h
    simp only [bind_eq_ok_iff, pure_eq_ok_iff] at h
    obtain ⟨tag, htag, others, hothers, rfl⟩ := h
    obtain ⟨u, v, rfl, hu⟩ := List.eq_append_cons_of_mem (mem_of_takeTag? hfound)
    obtain ⟨hraw, rfl, hspelling⟩ := spelling_of_takeTag? hu hfound
    obtain ⟨hspelled, hread⟩ := ih hothers
    refine ⟨?_, ?_⟩
    · simp only [rawText] at hspelled
      simp [rawText, hspelled, hraw, angled]
    · intro t ht
      rcases List.mem_cons.1 ht with rfl | ht
      · exact .inl ⟨u, hraw, htag ▸ hspelling⟩
      · exact hread t ht
  | case3 rest hnone ih =>
    rw [scan_open hnone, map_eq_ok_iff] at h
    obtain ⟨others, hothers, rfl⟩ := h
    obtain ⟨hspelled, hread⟩ := ih hothers
    exact ⟨by rw [rawText_consChar, hspelled], readFrom_consChar (by decide) hread⟩
  | case4 rest hopen ih =>
    rw [scan_lineFeed, map_eq_ok_iff] at h
    obtain ⟨others, hothers, rfl⟩ := h
    obtain ⟨hspelled, hread⟩ := ih hothers
    refine ⟨?_, ?_⟩
    · simp only [rawText] at hspelled
      simp [rawText, hspelled, lineFeedToken]
    · intro t ht
      rcases List.mem_cons.1 ht with rfl | ht
      · exact .inr (.inl rfl)
      · exact hread t ht
  | case5 c rest hopen hfeed ih =>
    rw [scan_char hopen hfeed, map_eq_ok_iff] at h
    obtain ⟨others, hothers, rfl⟩ := h
    obtain ⟨hspelled, hread⟩ := ih hothers
    exact ⟨by rw [rawText_consChar, hspelled], readFrom_consChar hfeed hread⟩

/-- A text without tokens holds a tag that names nothing. -/
theorem exists_unknown_of_scan {s : List Char} {e : UnknownTag} (h : scan s = .error e) :
    ∃ inner, TagSpelling inner (.error e) ∧ angled inner <:+: s := by
  induction s using scan.induct with
  | case1 =>
    rw [scan] at h
    cases h
  | case2 rest found hfound ih =>
    obtain ⟨u, v, rfl, hu⟩ := List.eq_append_cons_of_mem (mem_of_takeTag? hfound)
    obtain ⟨-, hbehind, hspelling⟩ := spelling_of_takeTag? hu hfound
    rw [scan_tag hfound] at h
    cases hkind : found.kind with
    | error e' =>
      rw [hkind] at h hspelling
      cases h
      exact ⟨u, hspelling, [], v, by simp [angled]⟩
    | ok tag =>
      rw [← scan_tag hfound, scan_tag_of_ok hfound hkind, map_eq_error_iff] at h
      obtain ⟨inner, hunknown, hheld⟩ := ih h
      refine ⟨inner, hunknown, hheld.trans ?_⟩
      rw [hbehind]
      exact ⟨'<' :: (u ++ ['>']), [], by simp⟩
  | case3 rest hnone ih =>
    rw [scan_open hnone, map_eq_error_iff] at h
    obtain ⟨inner, hunknown, hheld⟩ := ih h
    exact ⟨inner, hunknown, List.infix_cons hheld⟩
  | case4 rest hopen ih =>
    rw [scan_lineFeed, map_eq_error_iff] at h
    obtain ⟨inner, hunknown, hheld⟩ := ih h
    exact ⟨inner, hunknown, List.infix_cons hheld⟩
  | case5 c rest hopen hfeed ih =>
    rw [scan_char hopen hfeed, map_eq_error_iff] at h
    obtain ⟨inner, hunknown, hheld⟩ := ih h
    exact ⟨inner, hunknown, List.infix_cons hheld⟩

/-! ### Documents -/

/-- A text without line ends stands in a document as it stands in it with unified line ends. -/
private theorem isPrefix_unifyLineEnds_iff {s : List Char} (hs : '\r' ∉ s ∧ '\n' ∉ s) (document : List Char) :
    s <+: unifyLineEnds document ↔ s <+: document := by
  induction document using unifyLineEnds.induct generalizing s with
  | case1 => rfl
  | case2 rest ih =>
    cases s with
    | nil => simp
    | cons c s =>
      simp only [List.mem_cons, not_or] at hs
      simp [unifyLineEnds, List.cons_prefix_cons, Ne.symm hs.1.1, Ne.symm hs.2.1]
  | case3 c rest hpair ih =>
    cases s with
    | nil => simp
    | cons d s =>
      simp only [List.mem_cons, not_or] at hs
      rw [unifyLineEnds, List.cons_prefix_cons, List.cons_prefix_cons, ih ⟨hs.1.2, hs.2.2⟩]
      exact hpair

theorem isInfix_unifyLineEnds_iff {s : List Char} (hs : '\r' ∉ s ∧ '\n' ∉ s) (document : List Char) :
    s <:+: unifyLineEnds document ↔ s <:+: document := by
  by_cases hempty : s = []
  · simp [hempty]
  induction document using unifyLineEnds.induct with
  | case1 => rfl
  | case2 rest ih =>
    obtain ⟨c, s, rfl⟩ := List.exists_cons_of_ne_nil hempty
    simp only [List.mem_cons, not_or] at hs
    simp only [unifyLineEnds, List.infix_cons_iff, List.cons_prefix_cons, Ne.symm hs.1.1, Ne.symm hs.2.1, false_and,
      false_or, ih]
  | case3 c rest hpair ih =>
    have hfront := isPrefix_unifyLineEnds_iff hs (c :: rest)
    rw [unifyLineEnds] at hfront ⊢
    · rw [List.infix_cons_iff, List.infix_cons_iff, hfront, ih]
    · exact hpair
    · exact hpair

/-- The document holds a tag that is recognised but names nothing. -/
def HoldsUnknownTag (document : List Char) : Prop :=
  ∃ inner e, TagSpelling inner (.error e) ∧ angled inner <:+: document

/-- The tokens spell out the text.  They are tags as they are spelled, line ends, and text for everything else:
wherever a tag is spelled in the text, it is one of the tokens. -/
structure ReadsAs (s : List Char) (tokens : List Token) : Prop where
  spelled : rawText tokens = s
  readFrom : ∀ t ∈ tokens, t.ReadFrom
  tags : ∀ before inner after tag, s = before ++ angled inner ++ after → TagSpelling inner (.ok tag) →
    ∃ front back, tokens = front ++ ⟨tag, angled inner⟩ :: back ∧ rawText front = before

theorem readsAs_of_scan {s : List Char} {tokens : List Token} (h : scan s = .ok tokens) : ReadsAs s tokens where
  spelled := (rawText_of_scan h).1
  readFrom := (rawText_of_scan h).2
  tags := by
    intro before inner after tag hs hspelling
    obtain ⟨tag', front, back, htag, htokens, hfront⟩ := standsBehind_of_scan hspelling (by simpa using hs) h
    obtain rfl : tag = tag' := by simpa using htag
    exact ⟨front, back, htokens, hfront⟩

/-- A document with a tag that names nothing has no tokens, and the error tells of such a tag. -/
theorem readTokens_of_holdsUnknownTag {document : List Char} (h : HoldsUnknownTag document) :
    ∃ inner e, readTokens document = .error e ∧ TagSpelling inner (.error e) ∧ angled inner <:+: document := by
  obtain ⟨inner, e, hspelling, hheld⟩ := h
  obtain ⟨before, after, hs⟩ := (isInfix_unifyLineEnds_iff hspelling.unknown_not_mem document).2 hheld
  cases hread : readTokens document with
  | error e =>
    obtain ⟨inner, hunknown, hheld⟩ := exists_unknown_of_scan hread
    exact ⟨inner, e, rfl, hunknown, (isInfix_unifyLineEnds_iff hunknown.unknown_not_mem document).1 hheld⟩
  | ok tokens =>
    obtain ⟨tag, _, _, htag, -⟩ := standsBehind_of_scan hspelling (by simpa using hs.symm) hread
    cases htag

/-- Any other document has tokens. -/
theorem readTokens_of_not_holdsUnknownTag {document : List Char} (h : ¬ HoldsUnknownTag document) :
    ∃ tokens, readTokens document = .ok tokens ∧ ReadsAs (unifyLineEnds document) tokens := by
  cases hread : readTokens document with
  | error e =>
    obtain ⟨inner, hunknown, hheld⟩ := exists_unknown_of_scan hread
    exact absurd ⟨inner, e, hunknown, (isInfix_unifyLineEnds_iff hunknown.unknown_not_mem document).1 hheld⟩ h
  | ok tokens => exact ⟨tokens, rfl, readsAs_of_scan hread⟩

end ThermalPress
