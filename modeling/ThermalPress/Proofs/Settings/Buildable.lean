import Mathlib.Data.List.Infix
import ThermalPress.Proofs.Markup.Literals
import ThermalPress.Proofs.Markup.Untagged

/-!
# Jobs of validated settings

What validation makes sure of, and where it stops short.  Validated settings have room for every symbol, and every line
spacing, margin and feed can be written.  But validation only looks for the codec of the encoding (`InRange.encoding`)
and does not ask whether it encodes anything.  So a job is built exactly if the codec takes the texts in it and the data
of the symbol are characters (`jobs_of_validate`), and there are settings with which no text is printed (`textJob_hex`).
-/

namespace ThermalPress

/-! ### Lines of a document without tags -/

section Lines

/-- The tokens of a line without tags. -/
def lineTokens (line : List Char) : List Token := if line = [] then [] else [⟨.text, line⟩]

/-- The tokens of lines without tags, one below the other. -/
def plainTokens : List (List Char) → List Token
  | [] => []
  | [line] => lineTokens line
  | line :: lines => lineTokens line ++ lineFeedToken :: plainTokens lines

private theorem plainTokens_cons_nil {lines : List (List Char)} (h : lines ≠ []) :
    plainTokens ([] :: lines) = lineFeedToken :: plainTokens lines := by
  obtain ⟨line, lines, rfl⟩ := List.exists_cons_of_ne_nil h
  rfl

private theorem consChar_plainTokens (c : Char) {lines : List (List Char)} (h : lines ≠ []) :
    consChar c (plainTokens lines) = plainTokens (lines.modifyHead (List.cons c)) := by
  obtain ⟨line, lines, rfl⟩ := List.exists_cons_of_ne_nil h
  cases line with
  | nil => cases lines <;> rfl
  | cons d line => cases lines <;> rfl

/-- Without an angle, a text is read line by line. -/
theorem scan_of_plain {s : List Char} (h : '<' ∉ s) : scan s = .ok (plainTokens (s.splitOn '\n')) := by
  induction s with
  | nil =>
    rw [scan]
    rfl
  | cons c s ih =>
    rw [List.mem_cons, not_or] at h
    have hlines : s.splitOn '\n' ≠ [] := List.splitOnP_ne_nil _ _
    have hsplit : (c :: s).splitOn '\n' =
        if c == '\n' then [] :: s.splitOn '\n' else (s.splitOn '\n').modifyHead (List.cons c) :=
      List.splitOnP_cons_eq_if_modifyHead ..
    rw [scan, if_neg (Ne.symm h.1), ih h.2, hsplit]
    by_cases hfeed : c = '\n'
    · subst hfeed
      rw [if_pos (beq_self_eq_true _)]
      exact congrArg Except.ok (plainTokens_cons_nil hlines).symm
    · rw [if_neg hfeed, if_neg (by simpa using hfeed)]
      exact congrArg Except.ok (consChar_plainTokens c hlines)

theorem mem_texts_plainTokens {lines : List (List Char)} {t : Token} :
    t ∈ texts (plainTokens lines) ↔ ∃ line ∈ lines, line ≠ [] ∧ t = ⟨.text, line⟩ := by
  have hline : ∀ line, texts (lineTokens line) = lineTokens line := by
    intro line
    unfold lineTokens
    split <;> rfl
  have hmem : ∀ line, t ∈ lineTokens line ↔ line ≠ [] ∧ t = ⟨.text, line⟩ := by
    intro line
    unfold lineTokens
    split <;> simp_all
  fun_induction plainTokens lines with
  | case1 => simp [texts]
  | case2 line => simp [hline, hmem]
  | case3 line lines _ ih =>
    have htexts : texts (lineTokens line ++ lineFeedToken :: plainTokens lines) =
        lineTokens line ++ texts (plainTokens lines) := by
      rw [texts_append, hline]
      rfl
    have hrest : t ∈ texts (plainTokens lines) ↔ ∃ line ∈ lines, line ≠ [] ∧ t = ⟨.text, line⟩ := ih
    rw [htexts, List.mem_append, hmem, hrest]
    simp

theorem not_mem_unifyLineEnds {s : List Char} {c : Char} (hc : c ≠ '\n') (h : c ∉ s) : c ∉ unifyLineEnds s := by
  fun_induction unifyLineEnds s with
  | case1 => exact h
  | case2 rest ih => simp_all
  | case3 d rest _ ih => simp_all

/-- A document without an angle is laid out as rows of text, and their tokens are its lines that are not empty. -/
theorem laidOutRows_of_plain [Codecs] (settings : Settings) {document : List Char} (h : '<' ∉ document) :
    ∃ rows, laidOutRows settings (.text document) = .ok rows ∧ ∀ t, (∃ row ∈ rows, t ∈ row) ↔
      ∃ line ∈ (unifyLineEnds document).splitOn '\n', line ≠ [] ∧ t = ⟨.text, line⟩ := by
  obtain ⟨tokens, hread, htokens, -⟩ := readTokens_of_not_holdsTag (not_holdsTag_of_not_mem (.inl h))
  have hplain : tokens = plainTokens ((unifyLineEnds document).splitOn '\n') := by
    rw [readTokens, scan_of_plain (not_mem_unifyLineEnds (by decide) h), Except.ok.injEq] at hread
    exact hread.symm
  have htext : ∀ row ∈ rowsOf tokens, ∀ t ∈ row, t.kind = .text := by
    intro row hrow t ht
    obtain ⟨hmem, hbegins, -⟩ := mem_of_mem_rowsOf hrow ht
    rcases htokens t hmem with rfl | ⟨hkind, -⟩
    · cases hbegins
    · exact hkind
  refine ⟨_, laidOutRows_of_untagged rfl hread htokens, fun t => ?_⟩
  rw [← mem_texts_plainTokens, ← hplain, ← texts_rowsOf, mem_texts, List.mem_flatten]
  constructor
  · rintro ⟨row, hrow, ht⟩
    exact ⟨⟨row, hrow, ht⟩, htext row hrow t ht⟩
  · rintro ⟨hrow, -⟩
    exact hrow

end Lines

/-! ### Jobs -/

private theorem exactly_of_cases {α ε : Type} {x : Except ε α} {p : Prop} {q : ε → Prop}
    (h : (∃ a, x = .ok a ∧ p) ∨ ∃ e, x = .error e ∧ q e) (hpq : ∀ e, q e → ¬ p) :
    ((∃ a, x = .ok a) ↔ p) ∧ ∀ e, x = .error e → q e := by
  rcases h with ⟨a, rfl, hp⟩ | ⟨e, rfl, hq⟩
  · exact ⟨⟨fun _ => hp, fun _ => ⟨a, rfl⟩⟩, nofun⟩
  · refine ⟨⟨nofun, fun hp => absurd hp (hpq e hq)⟩, ?_⟩
    rintro _ ⟨⟩
    exact hq

theorem Qr.frame_of_surrogates {request : Request} {e : SurrogateError}
    (h : Utf8.encodeStrict request.data = .error e) : frame request = .error (.surrogates e) := by
  have hpayload : request.payload = .error e := by
    rw [Request.payload, truncate, h]
    rfl
  rw [frame, buildFrame, hpayload]

section Jobs

variable [Codecs] {settings : Settings} {document : List Char}

/-- Rows without bytes hold a token without bytes. -/
theorem exists_error_of_rowsImage {encoding : String} {rows : List Row} {e : EncodingError}
    (h : rowsImage encoding rows = .error e) : ∃ row ∈ rows, ∃ t ∈ row, t.image encoding = .error e := by
  obtain ⟨row, hrow, hfailed⟩ := exists_error_of_mapM (map_eq_error_iff.1 h)
  exact ⟨row, hrow, exists_error_of_mapM (map_eq_error_iff.1 hfailed)⟩

private theorem textJob_eq_error {rows : List Row} (hrows : laidOutRows settings (.text document) = .ok rows)
    {e : EncodingError} (hbody : rowsImage settings.encoding rows = .error e) (topMargin bottomFeed : Option Int) :
    textJob settings (.text document) topMargin bottomFeed = .error (.encoding e) := by
  have hcompile : compileFrom settings .plain (.text document) =
      ((rowsImage settings.encoding rows).mapError .encoding >>= fun body => pure ⟨body, styleAfter .plain rows⟩) := by
    rw [compileFrom, hrows]
    rfl
  rw [textJob, hcompile, hbody]
  rfl

/-- A document without tags has a text job if each of its lines has bytes, and otherwise the error of one of them. -/
theorem textJob_cases (hrange : settings.InRange) (hdocument : '<' ∉ document) (topMargin bottomFeed : Option Int) :
    (∃ job, textJob settings (.text document) topMargin bottomFeed = .ok job ∧
      ∀ line ∈ (unifyLineEnds document).splitOn '\n', line ≠ [] →
        ∃ bytes, Codecs.encode settings.encoding line = .ok bytes) ∨
    ∃ e, textJob settings (.text document) topMargin bottomFeed = .error e ∧
      ∃ line ∈ (unifyLineEnds document).splitOn '\n', line ≠ [] ∧
        ∃ cause, Codecs.encode settings.encoding line = .error cause ∧ e = .encoding cause := by
  obtain ⟨rows, hrows, hlines⟩ := laidOutRows_of_plain settings hdocument
  cases hbody : rowsImage settings.encoding rows with
  | ok body =>
    refine .inl ⟨_, TextRequest.job_of_rows (r := ⟨settings, .text document, topMargin, bottomFeed⟩)
      hrange.lineSpacing hrows hbody, ?_⟩
    intro line hline hnonempty
    obtain ⟨row, hrow, ht⟩ := (hlines ⟨.text, line⟩).2 ⟨line, hline, hnonempty, rfl⟩
    exact (rowsImage_eq_ok_iff.1 hbody).1 row hrow _ ht
  | error e =>
    refine .inr ⟨_, textJob_eq_error hrows hbody topMargin bottomFeed, ?_⟩
    obtain ⟨row, hrow, t, ht, hfailed⟩ := exists_error_of_rowsImage hbody
    obtain ⟨line, hline, hnonempty, rfl⟩ := (hlines t).1 ⟨row, hrow, ht⟩
    exact ⟨line, hline, hnonempty, e, hfailed, rfl⟩

namespace Qr

/-- A symbol alone has a job if its data have bytes. -/
theorem bareJob_cases (hrange : settings.InRange) (data : List CodePoint) :
    (∃ job, bareJob (.ofSettings settings data) = .ok job ∧ ∀ n, CodePoint.surrogate n ∉ data) ∨
    ∃ e, bareJob (.ofSettings settings data) = .error e ∧
      ∃ cause, Utf8.encodeStrict data = .error cause ∧ e = .surrogates cause := by
  cases hdata : Utf8.encodeStrict data with
  | ok bytes =>
    obtain ⟨characters, rfl, -⟩ := Utf8.encodeStrict_eq_ok_iff.1 hdata
    obtain ⟨f, hf⟩ := exists_frame_ofSettings hrange characters
    exact .inl ⟨_, bareJob_of_frame hf, fun n => CodePoint.surrogate_not_mem_ofChars n characters⟩
  | error cause =>
    have hframe : frame (.ofSettings settings data) = .error (.surrogates cause) := frame_of_surrogates hdata
    refine .inr ⟨.surrogates cause, ?_, cause, rfl, rfl⟩
    rw [bareJob, hframe]
    rfl

/-- A symbol with a caption has a job if its data have bytes and its caption has. -/
theorem captionedJob_cases (hrange : settings.InRange) (data : List CodePoint) (caption : Option (List Char))
    (bottomFeed : Int) :
    (∃ job, captionedJob (.ofSettings settings data) caption bottomFeed settings.encoding = .ok job ∧
      (∀ n, CodePoint.surrogate n ∉ data) ∧ ∀ s ∈ shownCaption? caption,
        ∃ bytes, Codecs.encode settings.encoding (splitLineEnds (unifyLineEnds s)) = .ok bytes) ∨
    ∃ e, captionedJob (.ofSettings settings data) caption bottomFeed settings.encoding = .error e ∧
      ((∃ cause, Utf8.encodeStrict data = .error cause ∧ e = .surrogates cause) ∨
        ∃ s ∈ shownCaption? caption, ∃ cause,
          Codecs.encode settings.encoding (splitLineEnds (unifyLineEnds s)) = .error cause ∧ e = .encoding cause) := by
  cases hdata : Utf8.encodeStrict data with
  | ok bytes =>
    obtain ⟨characters, rfl, -⟩ := Utf8.encodeStrict_eq_ok_iff.1 hdata
    obtain ⟨f, hf⟩ := exists_frame_ofSettings hrange characters
    rcases encodedCaption_cases caption settings.encoding with ⟨text, htext, hall⟩ | ⟨cause, htext, s, hs, hfailed⟩
    · exact .inl ⟨_, captionedJob_of_frame hf htext bottomFeed,
        fun n => CodePoint.surrogate_not_mem_ofChars n characters, hall⟩
    · exact .inr ⟨_, captionedJob_eq_error hf htext bottomFeed, .inr ⟨s, hs, cause, hfailed, rfl⟩⟩
  | error cause =>
    have hframe : frame (.ofSettings settings data) = .error (.surrogates cause) := frame_of_surrogates hdata
    refine .inr ⟨.surrogates cause, ?_, .inl ⟨cause, rfl, rfl⟩⟩
    rw [captionedJob, hframe]
    rfl

end Qr

/-- With validated settings, a document without tags has a text job exactly if the codec of the encoding takes every
line of it that is not empty, a symbol alone exactly if its data are characters, and a symbol with a caption exactly
if its data are, and the caption is blank or the codec takes it.  Each other job fails with the error of the codec or
that of the data, and with no other. -/
theorem jobs_of_validate {values : Members Json} (hvalues : Settings.validate values = .ok settings)
    (hdocument : '<' ∉ document) (topMargin bottomFeed : Option Int) (data : List CodePoint)
    (caption : Option (List Char)) (captionFeed : Int) :
    let text := textJob settings (.text document) topMargin bottomFeed
    let bare := Qr.bareJob (.ofSettings settings data)
    let captioned := Qr.captionedJob (.ofSettings settings data) caption captionFeed settings.encoding
    let encoded (s : List Char) := Codecs.encode settings.encoding s
    let lines := (unifyLineEnds document).splitOn '\n'
    ((∃ job, text = .ok job) ↔ ∀ line ∈ lines, line ≠ [] → ∃ bytes, encoded line = .ok bytes) ∧
    (∀ e, text = .error e → ∃ line ∈ lines, line ≠ [] ∧ ∃ cause, encoded line = .error cause ∧ e = .encoding cause) ∧
    ((∃ job, bare = .ok job) ↔ ∀ n, CodePoint.surrogate n ∉ data) ∧
    (∀ e, bare = .error e → ∃ cause, Utf8.encodeStrict data = .error cause ∧ e = .surrogates cause) ∧
    ((∃ job, captioned = .ok job) ↔ (∀ n, CodePoint.surrogate n ∉ data) ∧
      ∀ s ∈ Qr.shownCaption? caption, ∃ bytes, encoded (Qr.splitLineEnds (unifyLineEnds s)) = .ok bytes) ∧
    ∀ e, captioned = .error e →
      (∃ cause, Utf8.encodeStrict data = .error cause ∧ e = .surrogates cause) ∨
        ∃ s ∈ Qr.shownCaption? caption, ∃ cause, encoded (Qr.splitLineEnds (unifyLineEnds s)) = .error cause ∧
          e = .encoding cause := by
  intro text bare captioned encoded lines
  have hrange := Settings.inRange_of_validate hvalues
  obtain ⟨htext, htextError⟩ : ((∃ job, text = .ok job) ↔ _) ∧ ∀ e, text = .error e → _ := by
    refine exactly_of_cases (textJob_cases hrange hdocument topMargin bottomFeed) ?_
    rintro e ⟨line, hline, hnonempty, cause, hcause, -⟩ hall
    obtain ⟨bytes, hbytes⟩ := hall line hline hnonempty
    rw [hcause] at hbytes
    cases hbytes
  obtain ⟨hbare, hbareError⟩ : ((∃ job, bare = .ok job) ↔ _) ∧ ∀ e, bare = .error e → _ :=
    exactly_of_cases (Qr.bareJob_cases hrange data) fun e ⟨cause, hcause, _⟩ => Utf8.exists_surrogate_of_encodeStrict hcause
  obtain ⟨hcaptioned, hcaptionedError⟩ : ((∃ job, captioned = .ok job) ↔ _) ∧ ∀ e, captioned = .error e → _ := by
    refine exactly_of_cases (Qr.captionedJob_cases hrange data caption captionFeed) ?_
    rintro e (⟨cause, hcause, -⟩ | ⟨s, hs, cause, hcause, -⟩) ⟨hclean, hall⟩
    · exact Utf8.exists_surrogate_of_encodeStrict hcause hclean
    · obtain ⟨bytes, hbytes⟩ := hall s hs
      rw [hcause] at hbytes
      cases hbytes
  exact ⟨htext, htextError, hbare, hbareError, hcaptioned, hcaptionedError⟩

end Jobs

open scoped Libraries in
/-- With the name of a transformation an empty line has a job and no caption has one.  With the default settings, text
has one, and a symbol of half a surrogate pair has none. -/
theorem jobs_of_validate_hex :
    (∃ job, textJob { encoding := "hex" } (.text ['\r', '\n']) none none = .ok job) ∧
      (¬ ∃ job, Qr.captionedJob (.ofSettings { encoding := "hex" } [.char 'A']) (some ['x']) 4 "hex" = .ok job) ∧
      (∃ job, textJob {} (.text ['x']) none none = .ok job) ∧
      ¬ ∃ job, Qr.bareJob (.ofSettings {} [.surrogate 0]) = .ok job := by
  have hhex : Settings.validate [("encoding", .str "hex")] = .ok { encoding := "hex" } := by rfl
  have hdefault : Settings.validate [] = .ok {} := by rfl
  have hplain : '<' ∉ ['\r', '\n'] ∧ '<' ∉ ['x'] := by decide
  obtain ⟨hline, -, -, -, hcaption, -⟩ := jobs_of_validate hhex hplain.1 none none [.char 'A'] (some ['x']) 4
  obtain ⟨htext, -, hbare, -⟩ := jobs_of_validate hdefault hplain.2 none none [.surrogate 0] none 4
  refine ⟨hline.2 ?_, hcaption.not.2 ?_, htext.2 fun line _ _ => ⟨_, isPage_cp437.encode line⟩, hbare.not.2 ?_⟩
  · intro line hline hnonempty
    have hempty : ∀ other ∈ (unifyLineEnds ['\r', '\n']).splitOn '\n', other = [] := by decide
    exact absurd (hempty line hline) hnonempty
  · rintro ⟨-, hencoded⟩
    obtain ⟨bytes, hbytes⟩ := hencoded ['x'] (by decide)
    cases hbytes
  · intro hclean
    exact hclean 0 (List.mem_cons_self ..)

open scoped Libraries in
/-- Settings are accepted with which a text has no job. -/
theorem textJob_hex : Settings.validate [("encoding", .str "hex")] = .ok { encoding := "hex" } ∧
    textJob { encoding := "hex" } (.text ['x']) none none = .error (.encoding (.notText "hex" false)) := by
  have hhex : Settings.validate [("encoding", .str "hex")] = .ok { encoding := "hex" } := by rfl
  refine ⟨hhex, ?_⟩
  have hplain : '<' ∉ ['x'] := by decide
  rcases textJob_cases (Settings.inRange_of_validate hhex) hplain none none with ⟨job, -, hlines⟩ | ⟨e, hjob, hfailed⟩
  · obtain ⟨bytes, hbytes⟩ := hlines ['x'] (by decide) (by decide)
    cases hbytes
  · obtain ⟨line, -, -, cause, hcause, rfl⟩ := hfailed
    cases hcause
    exact hjob

end ThermalPress
