import Mathlib.Data.List.Chain
import ThermalPress.Proofs.Markup.Reading

/-!
# One way to cut a document

Tokens that spell a text out, with every tag of the text among them and no two stretches of text side by side
(`Cuts`), are the only ones of this kind (`Cuts.unique`): they begin alike, since a tag in front is the first token of
both, and a stretch of text ends where a tag or a line end begins.  The reader finds them in every document without an
i of Turkish (`readTokens_cuts_uniquely`).
-/

namespace ThermalPress

/-- No two stretches of text stand side by side. -/
def TextsApart (tokens : List Token) : Prop := tokens.IsChain fun t u => ¬ (t.kind = .text ∧ u.kind = .text)

/-- The tokens cut the text into its tags, its line ends, and stretches of text between them that are as long as they
can be. -/
structure Cuts (s : List Char) (tokens : List Token) : Prop extends ReadsAs s tokens where
  apart : TextsApart tokens

/-! ### What the reader finds -/

private theorem textsApart_cons_iff {t : Token} {tokens : List Token} : TextsApart (t :: tokens) ↔
    (∀ u ∈ tokens.head?, ¬ (t.kind = .text ∧ u.kind = .text)) ∧ TextsApart tokens := List.isChain_cons

private theorem textsApart_cons {t : Token} (ht : t.kind ≠ .text) {tokens : List Token} (h : TextsApart tokens) :
    TextsApart (t :: tokens) :=
  textsApart_cons_iff.2 ⟨fun _ _ hpair => ht hpair.1, h⟩

private theorem textsApart_consChar {c : Char} {tokens : List Token} (h : TextsApart tokens) :
    TextsApart (consChar c tokens) := by
  unfold consChar
  split
  · next raw tokens =>
    rw [textsApart_cons_iff] at h ⊢
    exact h
  · next hfirst =>
    rw [textsApart_cons_iff]
    refine ⟨?_, h⟩
    rintro ⟨kind, raw⟩ hhead ⟨-, hkind⟩
    obtain ⟨tokens, rfl⟩ := List.head?_eq_some_iff.1 hhead
    dsimp only at hkind
    subst hkind
    exact hfirst raw tokens rfl

private theorem textsApart_of_scan {s : List Char} {tokens : List Token} (h : scan s = .ok tokens) :
    TextsApart tokens := by
  induction s using scan.induct generalizing tokens with
  | case1 =>
    rw [scan, Except.ok.injEq] at h
    rw [← h]
    exact List.IsChain.nil
  | case2 rest found hfound ih =>
    rw [scan_tag hfound] at h
    simp only [bind_eq_ok_iff, pure_eq_ok_iff] at h
    obtain ⟨tag, htag, others, hothers, rfl⟩ := h
    obtain ⟨u, v, rfl, hu⟩ := List.eq_append_cons_of_mem (mem_of_takeTag? hfound)
    obtain ⟨-, -, hspelling⟩ := spelling_of_takeTag? hu hfound
    rw [htag] at hspelling
    exact textsApart_cons hspelling.ne_text (ih hothers)
  | case3 rest hnone ih =>
    rw [scan_open hnone, map_eq_ok_iff] at h
    obtain ⟨others, hothers, rfl⟩ := h
    exact textsApart_consChar (ih hothers)
  | case4 rest hopen ih =>
    rw [scan_lineFeed, map_eq_ok_iff] at h
    obtain ⟨others, hothers, rfl⟩ := h
    exact textsApart_cons (by simp [lineFeedToken]) (ih hothers)
  | case5 c rest hopen hfeed ih =>
    rw [scan_char hopen hfeed, map_eq_ok_iff] at h
    obtain ⟨others, hothers, rfl⟩ := h
    exact textsApart_consChar (ih hothers)

/-! ### There are no others -/

theorem Token.ReadFrom.raw_ne_nil {t : Token} (h : t.ReadFrom) : t.raw ≠ [] := by
  rcases h with ⟨inner, hraw, -⟩ | rfl | ⟨-, hraw, -⟩
  · rw [hraw]
    simp [angled]
  · simp [lineFeedToken]
  · exact hraw

section Unique

variable {s : List Char} {t u : Token} {tokens others : List Token}

private theorem rawText_cons (t : Token) (tokens : List Token) : rawText (t :: tokens) = t.raw ++ rawText tokens :=
  List.flatMap_cons

/-- A stretch of text does not begin with a line end. -/
private theorem lineFeed_ne_text {raw rest rest' : List Char} (hne : raw ≠ []) (hline : '\n' ∉ raw) :
    lineFeedToken.raw ++ rest ≠ raw ++ rest' := by
  obtain ⟨c, raw, rfl⟩ := List.exists_cons_of_ne_nil hne
  intro hsame
  simp only [lineFeedToken, List.cons_append, List.nil_append, List.cons.injEq] at hsame
  exact absurd (hsame.1 ▸ List.mem_cons_self ..) hline

private theorem eq_nil_of_rawText (h : ∀ t ∈ tokens, t.ReadFrom) (hempty : rawText tokens = []) : tokens = [] := by
  cases tokens with
  | nil => rfl
  | cons t tokens =>
    rw [rawText_cons, List.append_eq_nil_iff] at hempty
    exact absurd hempty.1 (h t (List.mem_cons_self ..)).raw_ne_nil

/-- A tag that the text begins with is the first token. -/
private theorem Cuts.head_of_tag {inner after : List Char} {tag : TokenKind} (h : Cuts s tokens)
    (hspelling : TagSpelling inner (.ok tag)) (hs : s = angled inner ++ after) :
    ∃ rest, tokens = ⟨tag, angled inner⟩ :: rest := by
  obtain ⟨front, back, htokens, hfront⟩ := h.tags [] inner after tag hs hspelling
  have hnone : front = [] := by
    apply eq_nil_of_rawText (fun t ht => h.readFrom t ?_) hfront
    rw [htokens]
    exact List.mem_append_left _ ht
  subst hnone
  exact ⟨back, htokens⟩

/-- Behind their first token, tokens cut what is left of the text. -/
private theorem Cuts.tail (h : Cuts s (t :: tokens)) : Cuts (rawText tokens) tokens where
  spelled := rfl
  readFrom := fun u hu => h.readFrom u (List.mem_cons_of_mem _ hu)
  tags := by
    intro before inner after tag hs hspelling
    have hwhole : s = (t.raw ++ before) ++ angled inner ++ after := by
      rw [← h.spelled, rawText_cons, hs]
      simp only [List.append_assoc]
    obtain ⟨front, back, htokens, hfront⟩ := h.tags _ inner after tag hwhole hspelling
    cases front with
    | nil =>
      have hempty := (List.append_eq_nil_iff.1 hfront.symm).1
      exact absurd hempty (h.readFrom t (List.mem_cons_self ..)).raw_ne_nil
    | cons first front =>
      rw [List.cons_append, List.cons.injEq] at htokens
      obtain ⟨rfl, htokens⟩ := htokens
      rw [rawText_cons] at hfront
      exact ⟨front, back, htokens, List.append_cancel_left hfront⟩
  apart := (textsApart_cons_iff.1 h.apart).2

/-- A stretch of text does not end where another one goes on: a tag or a line end would be inside of the other. -/
private theorem Cuts.length_le_of_text (h : Cuts s (t :: tokens)) (hother : Cuts s (u :: others))
    (ht : t.kind = .text) (hline : '\n' ∉ u.raw) : u.raw.length ≤ t.raw.length := by
  by_contra hlonger
  have hsame : t.raw ++ rawText tokens = u.raw ++ rawText others := by
    rw [← rawText_cons, ← rawText_cons, h.spelled, hother.spelled]
  obtain ⟨more, hmore, hrest⟩ : ∃ more, u.raw = t.raw ++ more ∧ rawText tokens = more ++ rawText others := by
    rcases List.append_eq_append_iff.1 hsame with ⟨more, hu, hrest⟩ | ⟨more, ht', -⟩
    · exact ⟨more, hu, hrest⟩
    · have hlength := congrArg List.length ht'
      rw [List.length_append] at hlength
      omega
  have hmoreNe : more ≠ [] := by
    rintro rfl
    rw [List.append_nil] at hmore
    exact hlonger (Nat.le_of_eq (congrArg List.length hmore))
  -- the token behind the shorter stretch stands inside of the longer one, at `more`
  cases tokens with
  | nil =>
    have hempty := (List.append_eq_nil_iff.1 hrest.symm).1
    exact hmoreNe hempty
  | cons v tokens =>
    have hv : v.kind ≠ .text := fun hv => (textsApart_cons_iff.1 h.apart).1 v rfl ⟨ht, hv⟩
    rcases h.readFrom v (by simp) with ⟨inner, hraw, hspelling⟩ | rfl | ⟨htext, -, -⟩
    · have hs : s = t.raw ++ angled inner ++ rawText tokens := by
        rw [← h.spelled, rawText_cons, rawText_cons, hraw, List.append_assoc]
      obtain ⟨front, back, hothers, hfront⟩ := hother.tags _ inner _ _ hs hspelling
      cases front with
      | nil => exact (h.readFrom t (List.mem_cons_self ..)).raw_ne_nil hfront.symm
      | cons first front =>
        rw [List.cons_append, List.cons.injEq] at hothers
        obtain ⟨rfl, -⟩ := hothers
        have hlength := congrArg List.length hfront
        rw [rawText_cons, List.length_append] at hlength
        omega
    · rw [rawText_cons] at hrest
      have hmoreLine : '\n' ∉ more := fun hmem => hline (hmore ▸ List.mem_append_right _ hmem)
      exact absurd hrest (lineFeed_ne_text hmoreNe hmoreLine)
    · exact hv htext

/-- Tokens of one text begin alike. -/
private theorem Cuts.head_eq (h : Cuts s (t :: tokens)) (hother : Cuts s (u :: others)) : t = u := by
  have hs := h.spelled
  have hs' := hother.spelled
  rw [rawText_cons] at hs hs'
  rcases h.readFrom t (List.mem_cons_self ..) with ⟨inner, hraw, hspelling⟩ | ht
  · obtain ⟨rest, hrest⟩ := hother.head_of_tag hspelling (by rw [← hs, hraw])
    rw [(List.cons.inj hrest).1, ← hraw]
  rcases hother.readFrom u (List.mem_cons_self ..) with ⟨inner, hraw, hspelling⟩ | hu
  · obtain ⟨rest, hrest⟩ := h.head_of_tag hspelling (by rw [← hs', hraw])
    rw [(List.cons.inj hrest).1, ← hraw]
  have hsame : t.raw ++ rawText tokens = u.raw ++ rawText others := hs.trans hs'.symm
  -- a line end is no part of a stretch of text, so either both are line ends or both are text
  rcases ht with rfl | ⟨ht, htne, htline⟩
  · rcases hu with rfl | ⟨-, hune, huline⟩
    · rfl
    · exact absurd hsame (lineFeed_ne_text hune huline)
  · rcases hu with rfl | ⟨hu, -, huline⟩
    · exact absurd hsame.symm (lineFeed_ne_text htne htline)
    · have hle := h.length_le_of_text hother ht huline
      have hge := hother.length_le_of_text h hu htline
      have hraw := List.append_inj_left hsame (Nat.le_antisymm hge hle)
      obtain ⟨kind, raw⟩ := t
      obtain ⟨kind', raw'⟩ := u
      dsimp only at ht hu hraw
      rw [ht, hu, hraw]

/-- There is one way at most to cut a text. -/
theorem Cuts.unique (h : Cuts s tokens) (hother : Cuts s others) : tokens = others := by
  induction tokens generalizing s others with
  | nil =>
    have hempty : rawText others = [] := by rw [hother.spelled, ← h.spelled]; rfl
    exact (eq_nil_of_rawText hother.readFrom hempty).symm
  | cons t tokens ih =>
    cases others with
    | nil =>
      have hempty : rawText (t :: tokens) = [] := by rw [h.spelled, ← hother.spelled]; rfl
      exact eq_nil_of_rawText h.readFrom hempty
    | cons u others =>
      obtain rfl := h.head_eq hother
      have hrest : rawText tokens = rawText others := by
        have hsame := h.spelled.trans hother.spelled.symm
        rw [rawText_cons, rawText_cons] at hsame
        exact List.append_cancel_left hsame
      have htail := hother.tail
      rw [← hrest] at htail
      rw [ih h.tail htail]

end Unique

/-! ### Documents -/

/-- A tag that names nothing has an i of Turkish. -/
theorem not_holdsUnknownTag_of_not_mem {document : List Char} (hdotted : 'İ' ∉ document) (hdotless : 'ı' ∉ document) :
    ¬ HoldsUnknownTag document := by
  rintro ⟨inner, e, hspelling, hheld⟩
  cases hspelling with
  | @unknown closing r i g h t hletters hi =>
    have hmem : i ∈ document := hheld.subset (by simp [mem_angled])
    simp only [isTurkishI, Bool.or_eq_true, beq_iff_eq] at hi
    rcases hi with rfl | rfl
    · exact hdotless hmem
    · exact hdotted hmem

/-- The tokens of a document without an i of Turkish are those that cut it, with single line ends, and there are no
other ones. -/
theorem readTokens_cuts_uniquely (document : List Char) (hdotted : 'İ' ∉ document) (hdotless : 'ı' ∉ document) :
    ∃ tokens, readTokens document = .ok tokens ∧ Cuts (unifyLineEnds document) tokens ∧
      ∀ others, Cuts (unifyLineEnds document) others → others = tokens := by
  obtain ⟨tokens, hread, hreads⟩ :=
    readTokens_of_not_holdsUnknownTag (not_holdsUnknownTag_of_not_mem hdotted hdotless)
  have hcuts : Cuts (unifyLineEnds document) tokens := ⟨hreads, textsApart_of_scan hread⟩
  exact ⟨tokens, hread, hcuts, fun others hothers => hothers.unique hcuts⟩

/-- Angles in front of a tag are text, a tag can be opened inside of what only looks like one, and a line break can
hold a line end. -/
theorem readTokens_cuts_uniquely_angles :
    ∃ tokens, readTokens "<<B><b<TD>\r\n\n<Br\r\n/>\r".toList = .ok tokens ∧
      Cuts "<<B><b<TD>\n\n<Br\n/>\r".toList tokens ∧
      tokens = [⟨.text, ['<']⟩, ⟨.bold true, "<B>".toList⟩, ⟨.text, ['<', 'b']⟩, ⟨.cellOpen, "<TD>".toList⟩,
        lineFeedToken, lineFeedToken, ⟨.lineBreak, "<Br\n/>".toList⟩, ⟨.text, ['\r']⟩] := by
  obtain ⟨tokens, hread, hcuts, -⟩ := readTokens_cuts_uniquely
    "<<B><b<TD>\r\n\n<Br\r\n/>\r".toList (by decide) (by decide)
  have hevaluated : readTokens "<<B><b<TD>\r\n\n<Br\r\n/>\r".toList =
      .ok [⟨.text, ['<']⟩, ⟨.bold true, "<B>".toList⟩, ⟨.text, ['<', 'b']⟩, ⟨.cellOpen, "<TD>".toList⟩,
        lineFeedToken, lineFeedToken, ⟨.lineBreak, "<Br\n/>".toList⟩, ⟨.text, ['\r']⟩] := by cbv
  exact ⟨tokens, hread, hcuts, Except.ok.inj (hread.symm.trans hevaluated)⟩

end ThermalPress
