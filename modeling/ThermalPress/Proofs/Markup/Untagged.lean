import ThermalPress.Proofs.Markup.Image
import ThermalPress.Proofs.Markup.Lines
import ThermalPress.Proofs.Markup.Reading
import ThermalPress.Proofs.Qr.Fallback

/-!
# Text without tags

A text in which no tag is recognised goes through the passes of a document as if there were none.  Its tokens are line
ends and the text between them (`readTokens_of_not_holdsTag`), its rows are its lines, and since a code page has bytes
for each character by itself, what is sent are the bytes of the text with a carriage return in front of each line feed
(`documentBytes_of_not_holdsTag`).  A caption is made in one piece and comes to the same bytes
(`encodedCaption_eq_documentBytes`).
-/

namespace ThermalPress

/-- A tag is recognised somewhere in the text, whether or not it names anything. -/
def HoldsTag (s : List Char) : Prop := ∃ inner kind, TagSpelling inner kind ∧ angled inner <:+: s

theorem not_holdsTag_of_not_mem {s : List Char} (h : '<' ∉ s ∨ '>' ∉ s) : ¬ HoldsTag s := by
  rintro ⟨inner, kind, -, hheld⟩
  rcases h with hopen | hclose
  · exact hopen (hheld.subset (by simp [mem_angled]))
  · exact hclose (hheld.subset (by simp [mem_angled]))

/-! ### Tags across line ends -/

/-- Where a text with unified line ends is cut, the text itself can be cut. -/
theorem exists_append_of_unifyLineEnds {s x y : List Char} (h : unifyLineEnds s = x ++ y) :
    ∃ a b, s = a ++ b ∧ unifyLineEnds a = x ∧ unifyLineEnds b = y := by
  induction s using unifyLineEnds.induct generalizing x with
  | case1 =>
    obtain ⟨rfl, rfl⟩ := List.append_eq_nil_iff.1 h.symm
    exact ⟨[], [], rfl, rfl, rfl⟩
  | case2 rest ih =>
    cases x with
    | nil => exact ⟨[], '\r' :: '\n' :: rest, rfl, rfl, h⟩
    | cons c x =>
      rw [unifyLineEnds, List.cons_append, List.cons.injEq] at h
      obtain ⟨rfl, h⟩ := h
      obtain ⟨a, b, rfl, rfl, rfl⟩ := ih h
      exact ⟨'\r' :: '\n' :: a, b, rfl, by rw [unifyLineEnds], rfl⟩
  | case3 c rest hpair ih =>
    cases x with
    | nil => exact ⟨[], c :: rest, rfl, rfl, h⟩
    | cons d x =>
      rw [unifyLineEnds, List.cons_append, List.cons.injEq] at h
      · obtain ⟨rfl, h⟩ := h
        obtain ⟨a, b, rfl, rfl, rfl⟩ := ih h
        refine ⟨c :: a, b, rfl, ?_, rfl⟩
        rw [unifyLineEnds]
        rintro a' rfl rfl
        exact hpair (a' ++ b) rfl rfl
      · exact hpair

/-- Without a line feed there is nothing to unify. -/
theorem unifyLineEnds_of_not_mem {s : List Char} (h : '\n' ∉ unifyLineEnds s) : unifyLineEnds s = s := by
  fun_induction unifyLineEnds s with
  | case1 => rfl
  | case2 rest ih => simp at h
  | case3 c rest hpair ih => rw [ih fun hmem => h (List.mem_cons_of_mem _ hmem)]

/-- Unifying line ends loses nothing but carriage returns. -/
theorem mem_unifyLineEnds {s : List Char} {c : Char} (hc : c ∈ s) : c ∈ unifyLineEnds s ∨ c = '\r' := by
  fun_induction unifyLineEnds s with
  | case1 => cases hc
  | case2 rest ih => grind
  | case3 d rest hpair ih => grind

/-- The line ends of a line break may have been ones of two characters. -/
private theorem exists_lineBreak_of_unifyLineEnds {a w blanks : List Char} {slashed : Bool}
    (hletters : w.map Char.toLower = ['b', 'r']) (hblanks : ∀ c ∈ blanks, isBlank c = true)
    (h : unifyLineEnds a = angled (w ++ blanks ++ slash slashed)) :
    ∃ inner, a = angled inner ∧ TagSpelling inner (.ok .lineBreak) := by
  have hletter : '\n' ∉ '<' :: w := by
    intro hmem
    have hlower : Char.toLower '\n' ∈ w.map Char.toLower := List.mem_map_of_mem (by simpa using hmem)
    rw [hletters] at hlower
    revert hlower
    decide
  have hend : '\n' ∉ slash slashed ++ ['>'] := by cases slashed <;> decide
  obtain ⟨front, rest, rfl, hfront, hrest⟩ : ∃ front rest, a = front ++ rest ∧ unifyLineEnds front = '<' :: w ∧
      unifyLineEnds rest = blanks ++ (slash slashed ++ ['>']) :=
    exists_append_of_unifyLineEnds (by simpa [angled] using h)
  obtain ⟨gap, back, rfl, hgap, hback⟩ := exists_append_of_unifyLineEnds hrest
  rw [unifyLineEnds_of_not_mem (hfront ▸ hletter)] at hfront
  rw [unifyLineEnds_of_not_mem (hback ▸ hend)] at hback
  subst hfront hback
  refine ⟨w ++ gap ++ slash slashed, by simp [angled], .lineBreak slashed hletters fun c hc => ?_⟩
  rcases mem_unifyLineEnds hc with hmem | rfl
  · exact hblanks c (hgap ▸ hmem)
  · decide

theorem holdsTag_of_unifyLineEnds {s : List Char} (h : HoldsTag (unifyLineEnds s)) : HoldsTag s := by
  obtain ⟨inner, kind, hspelling, before, after, hs⟩ := h
  obtain ⟨front, back, rfl, hfront, -⟩ := exists_append_of_unifyLineEnds hs.symm
  obtain ⟨first, tag, rfl, -, htag⟩ := exists_append_of_unifyLineEnds hfront
  have hheld : tag <:+: first ++ tag ++ back := ⟨first, back, rfl⟩
  rcases (takeTag?_spans hspelling.not_mem.2 (hspelling.takeTag? [])).2.2 with hbreak | hfeed
  · cases hspelling with
    | named closing name hname => cases name <;> cases closing <;> simp [TagName.kind] at hbreak
    | lineBreak slashed hletters hblanks =>
      obtain ⟨inner, rfl, hspelling⟩ := exists_lineBreak_of_unifyLineEnds hletters hblanks htag
      exact ⟨inner, _, hspelling, hheld⟩
    | unknown closing hletters hi => cases hbreak
  · have hsame : '\n' ∉ angled inner := by simpa [mem_angled] using hfeed
    rw [unifyLineEnds_of_not_mem (htag ▸ hsame)] at htag
    exact ⟨inner, kind, hspelling, htag ▸ hheld⟩

/-! ### Tokens and rows -/

/-- A text in which no tag is recognised has no other tokens than line ends and text. -/
theorem readTokens_of_not_holdsTag {s : List Char} (h : ¬ HoldsTag s) : ∃ tokens, readTokens s = .ok tokens ∧
    (∀ t ∈ tokens, t.Untagged) ∧ rawText tokens = unifyLineEnds s := by
  have hknown : ¬ HoldsUnknownTag s := fun ⟨inner, e, hspelling, hheld⟩ => h ⟨inner, .error e, hspelling, hheld⟩
  obtain ⟨tokens, hread, hreads⟩ := readTokens_of_not_holdsUnknownTag hknown
  refine ⟨tokens, hread, fun t ht => ?_, hreads.spelled⟩
  rcases hreads.readFrom t ht with ⟨inner, hraw, hspelling⟩ | huntagged
  · refine absurd (holdsTag_of_unifyLineEnds ⟨inner, _, hspelling, ?_⟩) h
    obtain ⟨front, back, rfl⟩ := List.append_of_mem ht
    exact ⟨rawText front, rawText back, by simp [← hreads.spelled, rawText, hraw]⟩
  · exact huntagged

theorem Token.Untagged.kind_cases {t : Token} (h : t.Untagged) : t.kind = .newline ∨ t.kind = .text := by
  rcases h with rfl | ⟨hkind, -⟩
  · exact .inl rfl
  · exact .inr hkind

/-- The layout leaves rows of text as they are. -/
theorem laidOutRows_of_untagged [Codecs] {settings : Settings} {document : Document} {characters : List Char}
    {tokens : List Token} (hcharacters : document.characters settings.encoding = .ok characters)
    (hread : readTokens characters = .ok tokens) (h : ∀ t ∈ tokens, t.Untagged) :
    laidOutRows settings document = .ok (rowsOf tokens) := by
  have hunpaired : ∀ row ∈ rowsOf tokens, Unpaired row := by
    intro row hrow
    refine List.pairwise_of_forall_mem_list fun t ht u _ hpair => ?_
    rcases (h t (mem_of_mem_rowsOf hrow ht).1).kind_cases with hkind | hkind <;> simp [hkind] at hpair
  rw [laidOutRows_of_read hcharacters hread,
    List.map_congr_left fun row hrow => arrange_of_unpaired (hunpaired row hrow) _, List.map_id']

/-- No row is left out in front of text. -/
theorem rowsOf_of_untagged {tokens : List Token} (h : ∀ t ∈ tokens, t.Untagged) : rowsOf tokens = cutRows tokens := by
  rw [rowsOf_eq_cutRows, afterOpening]
  cases tokens with
  | nil => rfl
  | cons t tokens =>
    rw [List.dropWhile_cons_of_neg]
    rcases (h t (List.mem_cons_self ..)).kind_cases with hkind | hkind <;> simp [hkind]

/-! ### Bytes -/

@[simp] theorem Qr.splitLineEnds_append (s others : List Char) :
    Qr.splitLineEnds (s ++ others) = Qr.splitLineEnds s ++ Qr.splitLineEnds others := List.flatMap_append

theorem Qr.splitLineEnds_of_not_mem {s : List Char} (h : '\n' ∉ s) : Qr.splitLineEnds s = s := by
  induction s with
  | nil => rfl
  | cons c s ih =>
    rw [List.mem_cons, not_or] at h
    have hrest := ih h.2
    rw [Qr.splitLineEnds] at hrest ⊢
    rw [List.flatMap_cons, if_neg (Ne.symm h.1), hrest, List.singleton_append]

section Page

variable {settings : Settings} {page : CodePage}

/-- Line ends and text are sent one after another as their characters are encoded. -/
theorem flatMap_sent_of_untagged {tokens : List Token} (h : ∀ t ∈ tokens, t.Untagged) :
    tokens.flatMap (Token.sent page.encode) = page.encode (Qr.splitLineEnds (rawText tokens)) := by
  induction tokens with
  | nil => rfl
  | cons t tokens ih =>
    have hrest := ih fun u hu => h u (List.mem_cons_of_mem _ hu)
    have ht : t.sent page.encode = page.encode (Qr.splitLineEnds t.raw) := by
      rcases h t (List.mem_cons_self ..) with rfl | ⟨hkind, -, hline⟩
      · rfl
      · rw [Qr.splitLineEnds_of_not_mem hline]
        simp [Token.sent, hkind]
    simp only [rawText, List.flatMap_cons, Qr.splitLineEnds_append, CodePage.encode_append] at hrest ⊢
    rw [ht, hrest]

variable [Codecs]

/-- A document in which no tag is recognised is sent as the bytes of its text, with line ends of two characters. -/
theorem documentBytes_of_not_holdsTag {document : Document} {characters : List Char}
    (hpage : Codecs.IsPage settings.encoding page)
    (hcharacters : document.characters settings.encoding = .ok characters) (h : ¬ HoldsTag characters) :
    documentBytes settings document = .ok (page.encode (Qr.splitLineEnds (unifyLineEnds characters))) := by
  obtain ⟨tokens, hread, htokens, hspelled⟩ := readTokens_of_not_holdsTag h
  rw [documentBytes_of_rows (laidOutRows_of_untagged hcharacters hread htokens), rowsOf_of_untagged htokens,
    rowsImage_cutRows hpage.encode, flatMap_sent_of_untagged htokens, hspelled]
  rfl

/-- A caption with something to see and without tags has the bytes of the same text as a document, and a line end
behind them. -/
theorem encodedCaption_eq_documentBytes {text : List Char}
    (hpage : Codecs.IsPage settings.encoding page) (hvisible : ∃ c ∈ text, isBlank c = false)
    (h : ¬ HoldsTag text) :
    ∃ body, documentBytes settings (.text text) = .ok body ∧
      Qr.encodedCaption (some text) settings.encoding = .ok (body ++ Command.lineEnd) := by
  refine ⟨_, documentBytes_of_not_holdsTag hpage rfl h, ?_⟩
  rw [Qr.encodedCaption, Qr.shownCaption?_eq_some_iff.2 ⟨rfl, hvisible⟩]
  simp only [hpage.encode]
  rfl

end Page

open scoped Libraries in
/-- Line ends at both ends, carriage returns in a row, an angle that opens no tag, and a character that the code page
does not have. -/
theorem encodedCaption_eq_documentBytes_returns :
    let text := "\n1 <\r\r\r\né€\r\n".toList
    let body : Bytes := [0x0D, 0x0A, 0x31, 0x20, 0x3C, 0x0D, 0x0D, 0x0D, 0x0A, 0x82, 0x3F, 0x0D, 0x0A]
    (∃ c ∈ text, isBlank c = false) ∧ ¬ HoldsTag text ∧ documentBytes {} (.text text) = .ok body ∧
      Qr.encodedCaption (some text) "cp437" = .ok (body ++ Command.lineEnd) := by
  intro text body
  have hvisible : ∃ c ∈ text, isBlank c = false := ⟨'1', by decide, by decide⟩
  have huntagged : ¬ HoldsTag text := not_holdsTag_of_not_mem (.inr (by decide))
  have hcaption : Qr.encodedCaption (some text) "cp437" = .ok (body ++ Command.lineEnd) := by decide
  obtain ⟨sent, hsent, hsame⟩ : ∃ sent, documentBytes {} (.text text) = .ok sent ∧
      Qr.encodedCaption (some text) "cp437" = .ok (sent ++ Command.lineEnd) :=
    @encodedCaption_eq_documentBytes {} .ibm437 _ text isPage_cp437 hvisible huntagged
  rw [hcaption, Except.ok.injEq] at hsame
  rw [← List.append_cancel_right hsame] at hsent
  exact ⟨hvisible, huntagged, hsent, hcaption⟩

end ThermalPress
