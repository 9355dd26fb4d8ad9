import ThermalPress.Markup.Visible
import ThermalPress.Proofs.Markup.Tags
import ThermalPress.Proofs.Results

/-!
# Seams between lines

Where two texts are joined by a line feed, the tokens of the whole are the tokens of the parts around a line end, unless
a line break begins in the first part and ends in the second (`readTokens_join`).  The induction is on the cutting of
the first part: a tag of it ends before the seam (`takeTag?_close`), so a `<` whose tag would change has its `>` behind
the seam.
-/

namespace ThermalPress

/-- The token of a line end. -/
def lineFeedToken : Token := ⟨.newline, ['\n']⟩

/-! ### Cutting step by step -/

theorem scan_tag {rest : List Char} {found : TagMatch} (h : takeTag? rest = some found) :
    scan ('<' :: rest) = do
      let kind ← found.kind
      let tokens ← scan found.rest
      return ⟨kind, found.raw⟩ :: tokens := by
  rw [scan, if_pos rfl]
  split
  · next found' hfound =>
    rw [h, Option.some.injEq] at hfound
    rw [hfound]
  · next hnone => simp [h] at hnone

theorem scan_tag_of_ok {rest : List Char} {found : TagMatch} {kind : TokenKind} (h : takeTag? rest = some found)
    (hkind : found.kind = .ok kind) : scan ('<' :: rest) = (scan found.rest).map (⟨kind, found.raw⟩ :: ·) := by
  rw [scan_tag h, hkind]
  cases scan found.rest <;> rfl

theorem scan_open {rest : List Char} (h : takeTag? rest = none) :
    scan ('<' :: rest) = (scan rest).map (consChar '<') := by
  rw [scan, if_pos rfl]
  split
  · next found hfound => simp [h] at hfound
  · rfl

theorem scan_lineFeed (rest : List Char) :
    scan ('\n' :: rest) = (scan rest).map (lineFeedToken :: ·) := by
  rw [scan, if_neg (by decide), if_pos rfl]
  rfl

theorem scan_char {c : Char} (hopen : c ≠ '<') (hfeed : c ≠ '\n') (rest : List Char) :
    scan (c :: rest) = (scan rest).map (consChar c) := by
  rw [scan, if_neg hopen, if_neg hfeed]

theorem consChar_append {t : Token} (ht : t.kind ≠ .text) (c : Char) (before after : List Token) :
    consChar c (before ++ t :: after) = consChar c before ++ t :: after := by
  obtain ⟨kind, raw⟩ := t
  cases before with
  | nil => cases kind <;> simp_all [consChar]
  | cons u before =>
    obtain ⟨kind', raw'⟩ := u
    cases kind' <;> rfl

theorem rawText_consChar (c : Char) (tokens : List Token) : rawText (consChar c tokens) = c :: rawText tokens := by
  unfold consChar
  split <;> rfl

/-- Behind a stretch without `<`, the rest can be cut if the whole can. -/
private theorem exists_scan_of_append {w v : List Char} (hw : '<' ∉ w) {tokens : List Token}
    (h : scan (w ++ v) = .ok tokens) : ∃ rest, scan v = .ok rest := by
  induction w generalizing tokens with
  | nil => exact ⟨tokens, h⟩
  | cons c w ih =>
    rw [List.mem_cons, not_or] at hw
    rw [List.cons_append] at h
    by_cases hfeed : c = '\n'
    · subst hfeed
      rw [scan_lineFeed, map_eq_ok_iff] at h
      obtain ⟨rest, hrest, -⟩ := h
      exact ih hw.2 hrest
    · rw [scan_char (Ne.symm hw.1) hfeed, map_eq_ok_iff] at h
      obtain ⟨rest, hrest, -⟩ := h
      exact ih hw.2 hrest

/-! ### The seam -/

/-- One of the tokens is a line break that the character at the position is part of. -/
def BreakHolds (position : Nat) (tokens : List Token) : Prop :=
  ∃ before lineBreak after, tokens = before ++ lineBreak :: after ∧ lineBreak.kind = .lineBreak ∧
    (rawText before).length ≤ position ∧ position < (rawText before).length + lineBreak.raw.length

/-- The line feed between the parts is part of a line break of the whole. -/
private def BreakAcross (first second : List Char) : Prop :=
  ∃ tokens, scan (first ++ '\n' :: second) = .ok tokens ∧ BreakHolds first.length tokens

/-- A tag of the first part is the same tag of the whole. -/
private theorem takeTag?_append {s : List Char} (h : '>' ∈ s) (more : List Char) :
    takeTag? (s ++ more) = (takeTag? s).map fun m => { m with rest := m.rest ++ more } := by
  obtain ⟨u, v, rfl, hu⟩ := List.eq_append_cons_of_mem h
  rw [List.append_assoc, List.cons_append, takeTag?_close hu, takeTag?_close hu v, Option.map_map]
  rfl

theorem mem_of_takeTag? {s : List Char} {m : TagMatch} (h : takeTag? s = some m) : '>' ∈ s := by
  by_contra hs
  simp [takeTag?_eq_none hs] at h

/-- The characters of a tag and the rest behind it are those of the text. -/
private theorem length_takeTag?_eq {s : List Char} {m : TagMatch} (h : takeTag? s = some m) :
    m.raw.length + m.rest.length = s.length + 1 := by
  obtain ⟨u, v, rfl, hu⟩ := List.eq_append_cons_of_mem (mem_of_takeTag? h)
  rw [takeTag?_close hu, Option.map_eq_some_iff] at h
  obtain ⟨m, hm, rfl⟩ := h
  simp only [(takeTag?_spans hu hm).1, List.length_cons, List.length_append, List.length_nil]
  omega

/-- A tag that is completed behind the seam is a line break across it, and what follows it can be cut. -/
private theorem takeTag?_across {s second : List Char} {m : TagMatch} {tokens : List Token} (hs : '>' ∉ s)
    (h : takeTag? (s ++ '\n' :: second) = some m) (hsecond : scan second = .ok tokens) :
    m.kind = .ok .lineBreak ∧ s.length + 1 < m.raw.length ∧ ∃ rest, scan m.rest = .ok rest := by
  have hclose : '>' ∈ second := by simpa [hs] using mem_of_takeTag? h
  obtain ⟨w, v, rfl, hw⟩ := List.eq_append_cons_of_mem hclose
  have hinner : '>' ∉ s ++ '\n' :: w := by simp [hs, hw]
  rw [show s ++ '\n' :: (w ++ '>' :: v) = (s ++ '\n' :: w) ++ '>' :: v by simp, takeTag?_close hinner,
    Option.map_eq_some_iff] at h
  obtain ⟨m, hm, rfl⟩ := h
  obtain ⟨hraw, hopen, hkind⟩ := takeTag?_spans hinner hm
  refine ⟨hkind.resolve_right (by simp), ?_, ?_⟩
  · simp only [hraw, List.length_cons, List.length_append, List.length_nil]
    omega
  · have hw' : '<' ∉ w ++ ['>'] := by
      simp only [List.mem_append, List.mem_cons, not_or] at hopen
      simp [hopen.2.2]
    exact exists_scan_of_append hw' (by simpa using hsecond)

/-- The first part is cut alike with and without what follows the seam. -/
private def Joins (first second : List Char) (others : List Token) : Prop :=
  ∀ tokens, scan first = .ok tokens → ¬ BreakAcross first second →
    scan (first ++ '\n' :: second) = .ok (tokens ++ lineFeedToken :: others)

/-- One step of the cutting: what it puts in front of the tokens of the rest of the first part is put in front of the
tokens of the rest of the whole. -/
private theorem Joins.step {s first second : List Char} {others : List Token} {front : List Token → List Token}
    (hpart : scan s = (scan first).map front)
    (hwhole : scan (s ++ '\n' :: second) = (scan (first ++ '\n' :: second)).map front)
    (hfront : ∀ before t after, t.kind ≠ .text → front (before ++ t :: after) = front before ++ t :: after)
    (hlength : ∀ before, (rawText (front before)).length + first.length = (rawText before).length + s.length)
    (ih : Joins first second others) : Joins s second others := by
  intro tokens htokens hacross
  rw [hpart, map_eq_ok_iff] at htokens
  obtain ⟨rest, hrest, rfl⟩ := htokens
  -- a line break across the seam of the rest is one across the seam of the whole, just farther back
  have hclear : ¬ BreakAcross first second := by
    rintro ⟨_, hscan, before, lineBreak, after, rfl, hkind, hbegins, hends⟩
    refine hacross ⟨_, ?_, front before, lineBreak, after, rfl, hkind, ?_, ?_⟩
    · rw [hwhole, hscan, Except.map, hfront _ _ _ (by simp [hkind])]
    · have := hlength before
      omega
    · have := hlength before
      omega
  rw [hwhole, ih rest hrest hclear, Except.map, hfront _ _ _ (by simp [lineFeedToken])]

private theorem Joins.tag {rest second : List Char} {others : List Token} {found : TagMatch}
    (h : takeTag? rest = some found) (ih : Joins found.rest second others) : Joins ('<' :: rest) second others := by
  cases hkind : found.kind with
  | error e =>
    intro tokens htokens
    simp [scan_tag h, hkind] at htokens
  | ok kind =>
    have hwhole : takeTag? (rest ++ '\n' :: second) = some { found with rest := found.rest ++ '\n' :: second } := by
      rw [takeTag?_append (mem_of_takeTag? h), h, Option.map_some]
    refine .step (scan_tag_of_ok h hkind) (scan_tag_of_ok hwhole hkind) (fun _ _ _ _ => rfl) ?_ ih
    intro before
    have hlength := length_takeTag?_eq h
    simp only [rawText, List.flatMap_cons, List.length_append, List.length_cons]
    omega

private theorem Joins.char {c : Char} {first second : List Char} {others : List Token}
    (hpart : scan (c :: first) = (scan first).map (consChar c))
    (hwhole : scan (c :: (first ++ '\n' :: second)) = (scan (first ++ '\n' :: second)).map (consChar c))
    (ih : Joins first second others) : Joins (c :: first) second others := by
  refine .step hpart hwhole (fun before t after ht => consChar_append ht c before after) ?_ ih
  intro before
  simp only [rawText_consChar, List.length_cons]
  omega

/-- A `<` that is text in the first part is text in the whole, or begins a line break across the seam. -/
private theorem Joins.opening {rest second : List Char} {others : List Token} (hsecond : scan second = .ok others)
    (h : takeTag? rest = none) (ih : Joins rest second others) : Joins ('<' :: rest) second others := by
  cases hwhole : takeTag? (rest ++ '\n' :: second) with
  | none => exact .char (scan_open h) (scan_open hwhole) ih
  | some m =>
    have hclose : '>' ∉ rest := by
      intro hmem
      simp [takeTag?_append hmem, h] at hwhole
    obtain ⟨hkind, hlength, after, hafter⟩ := takeTag?_across hclose hwhole hsecond
    intro tokens _ hacross
    refine absurd ⟨_, ?_, [], ⟨.lineBreak, m.raw⟩, after, rfl, rfl, Nat.zero_le _, ?_⟩ hacross
    · rw [List.cons_append, scan_tag_of_ok hwhole hkind, hafter]
      rfl
    · simpa [rawText] using hlength

/-- Two texts are cut apart from each other unless a line break goes across the line feed between them. -/
private theorem scan_join {first second : List Char} {tokens others : List Token} (hfirst : scan first = .ok tokens)
    (hsecond : scan second = .ok others) (hacross : ¬ BreakAcross first second) :
    scan (first ++ '\n' :: second) = .ok (tokens ++ lineFeedToken :: others) := by
  -- the tokens and the seam change with every step, so both stand inside of what the induction shows
  suffices h : Joins first second others from h tokens hfirst hacross
  clear hfirst hacross tokens
  induction first using scan.induct with
  | case1 =>
    intro tokens htokens _
    rw [scan, Except.ok.injEq] at htokens
    rw [List.nil_append, scan_lineFeed, hsecond, ← htokens]
    rfl
  | case2 rest found hfound ih => exact .tag hfound ih
  | case3 rest hnone ih => exact .opening hsecond hnone ih
  | case4 rest _ ih =>
    refine .step (scan_lineFeed rest) (scan_lineFeed _) (fun _ _ _ _ => rfl) ?_ ih
    intro before
    simp only [rawText, lineFeedToken, List.flatMap_cons, List.length_append, List.length_cons, List.length_nil]
    omega
  | case5 c rest hopen hfeed ih => exact .char (scan_char hopen hfeed _) (scan_char hopen hfeed _) ih

/-! ### Documents -/

/-- Line ends are unified on each side of a line feed by itself, unless it follows a carriage return. -/
theorem unifyLineEnds_join {first : List Char} (h : first.getLast? ≠ some '\r') (second : List Char) :
    unifyLineEnds (first ++ '\n' :: second) = unifyLineEnds first ++ '\n' :: unifyLineEnds second := by
  fun_induction unifyLineEnds first with
  | case1 => simp [unifyLineEnds]
  | case2 rest ih =>
    have hrest : rest.getLast? ≠ some '\r' := by
      cases rest with
      | nil => simp
      | cons d rest => simpa using h
    simp only [List.cons_append, unifyLineEnds, ih hrest]
  | case3 c rest hpair ih =>
    cases rest with
    | nil =>
      have hc : c ≠ '\r' := by simpa using h
      simp [unifyLineEnds, hc]
    | cons d rest =>
      have hrest : (d :: rest).getLast? ≠ some '\r' := by simpa using h
      rw [List.cons_append, unifyLineEnds, ih hrest, List.cons_append]
      rintro rest' rfl heq
      simp only [List.cons_append, List.cons.injEq] at heq
      exact hpair rest rfl (by rw [heq.1])

/-- The line feed between two documents is part of a line break of the joined document. -/
def SharesBreak (first second : List Char) : Prop :=
  ∃ tokens, readTokens (first ++ '\n' :: second) = .ok tokens ∧ BreakHolds (unifyLineEnds first).length tokens

theorem not_sharesBreak_of_forall {first second : List Char} {tokens : List Token}
    (hjoined : readTokens (first ++ '\n' :: second) = .ok tokens) (h : ∀ t ∈ tokens, t.kind ≠ .lineBreak) :
    ¬ SharesBreak first second := by
  rintro ⟨_, htokens, before, lineBreak, after, rfl, hkind, -⟩
  rw [hjoined, Except.ok.injEq] at htokens
  exact h lineBreak (by simp [htokens]) hkind

/-- The tokens of two documents with a line feed between them. -/
theorem readTokens_join {first second : List Char} {tokens others : List Token}
    (hfirst : readTokens first = .ok tokens) (hsecond : readTokens second = .ok others)
    (hreturn : first.getLast? ≠ some '\r') (hshares : ¬ SharesBreak first second) :
    readTokens (first ++ '\n' :: second) = .ok (tokens ++ lineFeedToken :: others) := by
  rw [readTokens, unifyLineEnds_join hreturn]
  refine scan_join hfirst hsecond ?_
  rwa [SharesBreak, readTokens, unifyLineEnds_join hreturn] at hshares

end ThermalPress
