import Mathlib.Data.List.Perm.Subperm
import ThermalPress.Proofs.Markup.Reading
import ThermalPress.Proofs.Printer.TextJobs

/-!
# Text that is printed

What a document has as text is printed, whatever it resembles.  No text is lost when tokens are cut into rows
(`texts_rowsOf`) and rows into cells (`texts_splitCells`), and the layout loses none but that of the cells that it drops
(`texts_arrange`).  So a document without a tag that names nothing is sent with all its text, and one with such a tag is
not sent (`sent_unless_unknownTag`).
-/

namespace ThermalPress

/-! ### Text of a row -/

/-- The tokens that are plain text. -/
def texts (tokens : List Token) : List Token := tokens.filter fun t => t.kind = .text

/-- The tokens of the cells that the layout of a row drops. -/
def droppedTokens (row : Row) : List Token := ((splitCells row).cells.drop 2).flatten

theorem mem_texts {t : Token} {tokens : List Token} : t ∈ texts tokens ↔ t ∈ tokens ∧ t.kind = .text := by
  simp [texts]

theorem texts_append (tokens others : List Token) : texts (tokens ++ others) = texts tokens ++ texts others :=
  List.filter_append ..

/-- Rows hold all text, in its order. -/
theorem texts_rowsOf (tokens : List Token) : texts (rowsOf tokens).flatten = texts tokens := by
  rw [flatten_rowsOf, texts, List.filter_filter]
  refine List.filter_congr fun t _ => ?_
  cases hkind : t.kind <;> simp [Token.beginsRow, hkind]

private theorem texts_sublist_map {f : Token → Token} (hf : ∀ t : Token, t.kind = .text → f t = t) (row : Row) :
    (texts row).Sublist (row.map f) := by
  have hmap : (texts row).map f = texts row := by
    conv_rhs => rw [← List.map_id (texts row)]
    exact List.map_congr_left fun t ht => hf t (by simpa using (List.mem_filter.1 ht).2)
  rw [← hmap]
  exact List.filter_sublist.map f

private theorem openerAsText_of_text (t : Token) (ht : t.kind = .text) : openerAsText t = t := by
  simp [openerAsText, ht]

private theorem closerAsText_of_text (t : Token) (ht : t.kind = .text) : closerAsText t = t := by
  simp [closerAsText, ht]

/-- Cutting a row into cells loses no text. -/
theorem texts_splitCells (row : Row) :
    (texts row).Subperm ((splitCells row).cells.flatten ++ (splitCells row).outside) := by
  fun_induction splitCells row with
  | case1 => exact List.Subperm.refl _
  | case2 t row ht close after hafter rest ih =>
    obtain ⟨hclose, hrow⟩ := append_of_dropWhile hafter
    have htexts : texts (t :: row) = texts (row.takeWhile (·.kind ≠ .cellClose)) ++ texts after := by
      conv_lhs => rw [hrow]
      simp [texts, ht, hclose]
    rw [htexts, List.flatten_cons, List.append_assoc]
    exact (texts_sublist_map openerAsText_of_text _).subperm.append ih
  | case3 t row ht hafter =>
    have htexts : texts (t :: row) = texts row := by simp [texts, ht]
    rw [htexts]
    exact ((texts_sublist_map openerAsText_of_text row).trans (List.sublist_cons_self ..)).subperm
  | case4 t row ht rest ih =>
    have hmiddle : (closerAsText t :: (rest.cells.flatten ++ rest.outside)).Perm
        (rest.cells.flatten ++ closerAsText t :: rest.outside) := List.perm_middle.symm
    by_cases htext : t.kind = .text
    · have htexts : texts (t :: row) = t :: texts row := by simp [texts, htext]
      rw [htexts]
      rw [closerAsText_of_text t htext] at hmiddle ⊢
      exact ((List.subperm_cons t).2 ih).trans hmiddle.subperm
    · have htexts : texts (t :: row) = texts row := by simp [texts, htext]
      rw [htexts]
      exact (ih.trans (List.sublist_cons_self ..).subperm).trans hmiddle.subperm

private theorem texts_dropAlignment (cell : Row) : texts (dropAlignment cell) = texts cell := by
  rw [texts, dropAlignment, List.filter_filter]
  refine List.filter_congr fun t _ => ?_
  cases hkind : t.kind <;> simp [Token.isAlignment, hkind]

/-- The layout of a row loses no text but that of the cells that it drops. -/
theorem texts_arrange (row : Row) (width : Int) :
    (texts row).Subperm (arrange row width ++ droppedTokens row) := by
  have hcells : (texts row).Subperm (texts ((splitCells row).cells.flatten ++ (splitCells row).outside)) := by
    simpa [texts] using (texts_splitCells row).filter fun t => t.kind = .text
  unfold arrange droppedTokens
  split
  · exact (List.filter_sublist.trans (List.sublist_append_left ..)).subperm
  · next cell outside hsplit =>
    have htexts : texts ([cell].flatten ++ outside) = texts (dropAlignment cell ++ outside) := by
      simp [texts_append, texts_dropAlignment]
    rw [hsplit, htexts] at hcells
    have hline : (texts (dropAlignment cell ++ outside)).Sublist (centering :: (dropAlignment cell ++ outside)) :=
      List.filter_sublist.trans (List.sublist_cons_self ..)
    exact hcells.trans (hline.trans (List.sublist_append_left ..)).subperm
  · next first second more outside hsplit =>
    have htexts : texts ((first :: second :: more).flatten ++ outside) =
        texts (dropAlignment first ++ (dropAlignment second ++ (more.flatten ++ outside))) := by
      simp [texts_append, texts_dropAlignment]
    rw [hsplit, htexts] at hcells
    have hmoved : (dropAlignment first ++ (dropAlignment second ++ (more.flatten ++ outside))).Perm
        (dropAlignment first ++ (dropAlignment second ++ outside) ++ more.flatten) := by
      have hbehind : (more.flatten ++ outside).Perm (outside ++ more.flatten) := List.perm_append_comm
      simpa using (hbehind.append_left (dropAlignment second)).append_left (dropAlignment first)
    have hblanks : (dropAlignment first ++ (dropAlignment second ++ outside)).Sublist
        (dropAlignment first ++ blanks (gapBetween (dropAlignment first) (dropAlignment second) width) ::
          (dropAlignment second ++ outside)) := (List.sublist_cons_self ..).append_left _
    rw [hsplit]
    exact (hcells.trans List.filter_sublist.subperm).trans
      (hmoved.subperm.trans (hblanks.append_right more.flatten).subperm)

theorem texts_laidOut (tokens : List Token) (width : Int) :
    (texts tokens).Subperm
      (((rowsOf tokens).map fun row => arrange row width).flatten ++ (rowsOf tokens).flatMap droppedTokens) := by
  rw [← texts_rowsOf]
  induction rowsOf tokens with
  | nil => exact List.Subperm.refl _
  | cons row rows ih =>
    have hmoved : (arrange row width ++ droppedTokens row ++
          ((rows.map fun row => arrange row width).flatten ++ rows.flatMap droppedTokens)).Perm
        (arrange row width ++ (rows.map fun row => arrange row width).flatten ++
          (droppedTokens row ++ rows.flatMap droppedTokens)) := by
      simpa using (List.perm_append_comm_assoc (droppedTokens row) _ _).append_left (arrange row width)
    rw [List.flatten_cons, texts_append, List.map_cons, List.flatten_cons, List.flatMap_cons]
    exact ((texts_arrange row width).append ih).trans hmoved.subperm

/-! ### Jobs -/

section Jobs

variable {document : List Char}

theorem not_holdsUnknownTag_of_readTokens {tokens : List Token} (h : readTokens document = .ok tokens) :
    ¬ HoldsUnknownTag document := by
  intro hunknown
  obtain ⟨_, _, herror, -⟩ := readTokens_of_holdsUnknownTag hunknown
  rw [h] at herror
  cases herror

variable [Codecs] {settings : Settings}

/-- A document that cannot be read has no bytes, and there is no job for it. -/
theorem no_job_of_readTokens {e : UnknownTag} (h : readTokens document = .error e)
    (topMargin bottomFeed : Option Int) :
    documentBytes settings (.text document) = .error (.tag e) ∧
      textJob settings (.text document) topMargin bottomFeed = .error (.tag e) := by
  have hread : documentRows settings (.text document) =
      ((readTokens document).mapError .tag >>= fun tokens => pure (rowsOf tokens)) := rfl
  rw [documentBytes, textJob, compileFrom, laidOutRows, hread, h]
  exact ⟨rfl, rfl⟩

/-- For a printer of the default code page and settings that are validated: a document with a tag that names nothing
has no tokens, no bytes and no job, and each of them fails with the error of such a tag.  Every other document has a
job, with its bytes in it.  It is read as its tags and as text for everything else, and all its text is sent in the
code page, but for the text of cells that the layout of their row drops. -/
theorem sent_unless_unknownTag {values : Members Json} (hvalues : Settings.validate values = .ok settings)
    (hpage : Codecs.IsPage settings.encoding .ibm437) (document : List Char)
    (topMargin bottomFeed : Option Int) :
    (HoldsUnknownTag document → ∃ inner e, TagSpelling inner (.error e) ∧ angled inner <:+: document ∧
      readTokens document = .error e ∧ documentBytes settings (.text document) = .error (.tag e) ∧
      textJob settings (.text document) topMargin bottomFeed = .error (.tag e)) ∧
    (¬ HoldsUnknownTag document → ∃ tokens rows body job, readTokens document = .ok tokens ∧
      ReadsAs (unifyLineEnds document) tokens ∧ laidOutRows settings (.text document) = .ok rows ∧
      (texts tokens).Subperm (rows.flatten ++ (rowsOf tokens).flatMap droppedTokens) ∧
      documentBytes settings (.text document) = .ok body ∧
      body = Command.lineEnd.intercalate (rows.map (List.flatMap (Token.sent CodePage.ibm437.encode))) ∧
      textJob settings (.text document) topMargin bottomFeed = .ok job ∧ body <:+: job) := by
  constructor
  · intro hunknown
    obtain ⟨inner, e, hread, hspelling, hheld⟩ := readTokens_of_holdsUnknownTag hunknown
    exact ⟨inner, e, hspelling, hheld, hread, no_job_of_readTokens hread topMargin bottomFeed⟩
  · intro hknown
    obtain ⟨tokens, hread, hreads⟩ := readTokens_of_not_holdsUnknownTag hknown
    obtain ⟨rows, hrows, htexts⟩ : ∃ rows, laidOutRows settings (.text document) = .ok rows ∧
        (texts tokens).Subperm (rows.flatten ++ (rowsOf tokens).flatMap droppedTokens) :=
      ⟨_, laidOutRows_text hread, texts_laidOut tokens settings.lineWidth⟩
    have hbody := rowsImage_of_encode hpage.encode rows
    have hcompile : compileFrom settings .plain (.text document) = .ok ⟨_, styleAfter .plain rows⟩ :=
      compileFrom_eq_ok_iff.2 ⟨rows, hrows, hbody, rfl⟩
    have hbytes := congrArg (Except.map Compiled.body) hcompile
    have hjob := TextRequest.job_of_rows (r := ⟨settings, .text document, topMargin, bottomFeed⟩)
      (Settings.inRange_of_validate hvalues).lineSpacing hrows hbody
    exact ⟨tokens, rows, _, _, hread, hreads, hrows, htexts, hbytes, rfl, hjob, ⟨_, _, rfl⟩⟩

end Jobs

open scoped Libraries in
/-- A tag with an i of Turkish is an error.  A tag that nobody knows is text, and so is one that breaks off. -/
theorem sent_unless_unknownTag_dotless :
    (∃ e, textJob {} (.text "<rıght>".toList) none none = .error (.tag e)) ∧
      ∃ job, textJob {} (.text "<i>é<b".toList) none (some (-1)) = .ok job ∧
        [0x3C, 0x69, 0x3E, 0x82, 0x3C, 0x62] <:+: job := by
  have hdefault : Settings.validate [] = .ok {} := by rfl
  have hread : readTokens "<i>é<b".toList = .ok [⟨.text, "<i>é<b".toList⟩] := by cbv
  constructor
  · obtain ⟨_, e, -, -, -, -, hjob⟩ := (sent_unless_unknownTag hdefault isPage_cp437
      "<rıght>".toList none none).1
        ⟨"rıght".toList, _, .unknown false (by decide) (by decide), [], [], rfl⟩
    exact ⟨e, hjob⟩
  · obtain ⟨tokens, rows, body, job, htokens, -, hrows, -, -, hbody, hjob, hheld⟩ :=
      (sent_unless_unknownTag hdefault isPage_cp437 "<i>é<b".toList none
        (some (-1))).2 (not_holdsUnknownTag_of_readTokens hread)
    have hlaid : arrange [⟨.text, "<i>é<b".toList⟩] 32 = [⟨.text, "<i>é<b".toList⟩] := by cbv
    have hrow : rowsOf [⟨.text, "<i>é<b".toList⟩] = [[⟨.text, "<i>é<b".toList⟩]] := by decide
    rw [laidOutRows_text hread, hrow, List.map_singleton, Except.ok.injEq] at hrows
    rw [hlaid] at hrows
    subst hrows hbody
    exact ⟨job, hjob, hheld⟩

/-- The document `<rıght>` is no text and no tag. -/
theorem readTokens_dotless : readTokens "<rıght>".toList = .error ⟨false, "rıght".toList⟩ := by cbv

end ThermalPress
