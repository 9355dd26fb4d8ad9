import ThermalPress.Proofs.Markup.Image
import ThermalPress.Proofs.Printer.Interpreter
import ThermalPress.Proofs.Settings.Ranges

/-!
# Text jobs on a printer

The style that is kept while a document is compiled is the style of the printer that reads its bytes
(`feedAll_body`), as long as no text of the document holds a byte that begins a command.  A text job takes this style
back, so that a printer in plain style is in plain style again at its end, and the body of each of several jobs sent
one after another begins in plain style (`plain_before_each_body`).
-/

namespace ThermalPress

open Printer (ready)

/-- A text job that is asked for. -/
structure TextRequest where
  settings : Settings
  document : Document
  topMargin : Option Int
  bottomFeed : Option Int

section Codecs

variable [Codecs]

namespace TextRequest

/-- The bytes of the job. -/
def job (r : TextRequest) : Except JobError Bytes := textJob r.settings r.document r.topMargin r.bottomFeed

/-- The document, compiled for a printer in plain style. -/
def compiled (r : TextRequest) : Except JobError Compiled := compileFrom r.settings .plain r.document

/-- What is sent before the document. -/
def header (r : TextRequest) : Bytes :=
  [0x1B, 0x33, UInt8.ofNat r.settings.lineSpacing.toNat] ++
    Command.blankLines (r.topMargin.getD r.settings.topMarginLines)

/-- What is sent behind the document, which has left the printer in `style`. -/
def footer (r : TextRequest) (style : Style) : Bytes :=
  style.restore ++ Command.blankLines (r.bottomFeed.getD r.settings.autoFeedLines)

/-- No text of the document, as it is laid out, holds a byte that begins a command. -/
def PrintsPlainText (r : TextRequest) : Prop :=
  ∀ rows, laidOutRows r.settings r.document = .ok rows → ∀ row ∈ rows, ∀ t ∈ row,
    t.kind = .text ∨ t.kind = .cellOpen ∨ t.kind = .cellClose →
      ∀ bytes, Codecs.encode r.settings.encoding t.raw = .ok bytes → 0x1B ∉ bytes ∧ 0x1D ∉ bytes

/-- The settings are validated, the document compiles, and its text begins no command. -/
structure Fit (r : TextRequest) : Prop where
  validated : ∃ values, Settings.validate values = .ok r.settings
  compiles : ∃ compiled, r.compiled = .ok compiled
  printsPlainText : r.PrintsPlainText

end TextRequest

end Codecs

/-! ### The style of rows -/

section Rows

variable {bytes : Token → Bytes}

private theorem feedAll_row {row : Row}
    (h : ∀ t ∈ row, ∀ style, (ready style).feedAll (bytes t) = ready (style.apply t.kind)) (style : Style) :
    (ready style).feedAll (row.flatMap bytes) = ready (style.applyAll (row.map (·.kind))) := by
  induction row generalizing style with
  | nil => rfl
  | cons t row ih =>
    rw [List.flatMap_cons, Printer.feedAll_append, h t (List.mem_cons_self ..),
      ih fun u hu => h u (List.mem_cons_of_mem _ hu)]
    rfl

/-- The line ends between rows change no style, so the printer follows the tokens of all rows. -/
private theorem feedAll_rows {rows : List Row}
    (h : ∀ row ∈ rows, ∀ t ∈ row, ∀ style, (ready style).feedAll (bytes t) = ready (style.apply t.kind))
    (style : Style) :
    (ready style).feedAll (Command.lineEnd.intercalate (rows.map (List.flatMap bytes))) =
      ready (styleAfter style rows) := by
  induction rows generalizing style with
  | nil => rfl
  | cons row rows ih =>
    have hrow := feedAll_row (h row (List.mem_cons_self ..)) style
    have hrows := ih fun other hother => h other (List.mem_cons_of_mem _ hother)
    cases rows with
    | nil => simpa [List.intercalate, styleAfter] using hrow
    | cons second rows =>
      have hsplit : Command.lineEnd.intercalate ((row :: second :: rows).map (List.flatMap bytes)) =
          row.flatMap bytes ++ (Command.lineEnd ++
            Command.lineEnd.intercalate ((second :: rows).map (List.flatMap bytes))) := by
        simp [List.intercalate]
      rw [hsplit, Printer.feedAll_append, hrow, Printer.feedAll_append, Printer.feedAll_lineEnd, hrows]
      simp [styleAfter, Style.applyAll_append]

end Rows

/-! ### The style of a document -/

section Codecs

variable [Codecs]

/-- The bytes of a token change the style as the token does, if its text begins no command. -/
private theorem feedAll_tokenBytes {encoding : String} {t : Token}
    (himage : ∃ b, t.image encoding = .ok b)
    (htext : t.kind = .text ∨ t.kind = .cellOpen ∨ t.kind = .cellClose →
      ∀ bytes, Codecs.encode encoding t.raw = .ok bytes → 0x1B ∉ bytes ∧ 0x1D ∉ bytes) (style : Style) :
    (ready style).feedAll (t.bytes encoding) = ready (style.apply t.kind) := by
  obtain ⟨b, hb⟩ := himage
  have hbytes : t.bytes encoding = b := by simpa [hb] using (Token.image_eq_ok_bytes hb).symm
  rw [hbytes]
  unfold Token.image at hb
  split at hb
  · rename_i command hcommand
    cases hb
    exact Printer.feedAll_styleCommand hcommand style
  · rename_i hprinted
    have hkind : t.kind = .text ∨ t.kind = .cellOpen ∨ t.kind = .cellClose := by
      revert hprinted
      cases t.kind <;> simp [styleCommand?]
    rw [Printer.feedAll_printed (htext hkind b hb)]
    rcases hkind with hkind | hkind | hkind <;> simp [hkind, Style.apply]

/-- A printer that has read the body of a document is in the style that was kept while it was compiled. -/
theorem feedAll_body {r : TextRequest} (hr : r.PrintsPlainText) {style : Style} {c : Compiled}
    (hc : compileFrom r.settings style r.document = .ok c) : (ready style).feedAll c.body = ready c.style := by
  obtain ⟨rows, hrows, hbody, hstyle⟩ := compileFrom_eq_ok_iff.1 hc
  obtain ⟨himages, hbytes⟩ := rowsImage_eq_ok_iff.1 hbody
  rw [hbytes, hstyle]
  apply feedAll_rows
  intro row hrow t ht
  exact feedAll_tokenBytes (himages row hrow t ht) (hr rows hrows row hrow t ht)

/-! ### Whole jobs -/

namespace TextRequest

omit [Codecs] in
private theorem feedAll_header (r : TextRequest) : (ready .plain).feedAll r.header = ready .plain := by
  rw [header, Printer.feedAll_append, Printer.feedAll_lineSpacing, Printer.feedAll_blankLines]

omit [Codecs] in
private theorem feedAll_footer (r : TextRequest) (style : Style) :
    (ready style).feedAll (r.footer style) = ready .plain := by
  rw [footer, Printer.feedAll_append, Printer.feedAll_restore, Printer.feedAll_blankLines]

/-- A job has a header, the body and a footer, wherever its document compiles and the line spacing is a byte. -/
theorem job_of_compiled {r : TextRequest} (hspacing : 0 ≤ r.settings.lineSpacing ∧ r.settings.lineSpacing ≤ 255)
    {c : Compiled} (hc : r.compiled = .ok c) : r.job = .ok (r.header ++ c.body ++ r.footer c.style) := by
  have hc' : compileFrom r.settings .plain r.document = .ok c := hc
  rw [job, textJob, hc', Command.lineSpacing_of_range hspacing]
  simp only [bind_eq_ok_iff, pure_eq_ok_iff, liftCommand_eq_ok_iff, Except.ok.injEq]
  refine ⟨c, rfl, _, rfl, ?_⟩
  simp [header, footer, Command.escape]

theorem job_of_rows {r : TextRequest} (hspacing : 0 ≤ r.settings.lineSpacing ∧ r.settings.lineSpacing ≤ 255)
    {rows : List Row} (hrows : laidOutRows r.settings r.document = .ok rows) {body : Bytes}
    (hbody : rowsImage r.settings.encoding rows = .ok body) :
    r.job = .ok (r.header ++ body ++ r.footer (styleAfter .plain rows)) :=
  job_of_compiled (c := ⟨body, _⟩) hspacing (compileFrom_eq_ok_iff.2 ⟨rows, hrows, hbody, rfl⟩)

private theorem job_eq {r : TextRequest} (hr : r.Fit) {c : Compiled} (hc : r.compiled = .ok c) :
    r.job = .ok (r.header ++ c.body ++ r.footer c.style) := by
  obtain ⟨values, hvalues⟩ := hr.validated
  exact job_of_compiled (Settings.inRange_of_validate hvalues).lineSpacing hc

private theorem exists_job {r : TextRequest} (hr : r.Fit) :
    ∃ bytes, r.job = .ok bytes ∧ (ready .plain).feedAll bytes = ready .plain := by
  obtain ⟨c, hc⟩ := hr.compiles
  refine ⟨_, job_eq hr hc, ?_⟩
  rw [Printer.feedAll_append, Printer.feedAll_append, feedAll_header, feedAll_body hr.printsPlainText hc,
    feedAll_footer]

private theorem exists_jobs {requests : List TextRequest} (h : ∀ r ∈ requests, r.Fit) :
    ∃ sent, requests.mapM job = .ok sent ∧ (ready .plain).feedAll sent.flatten = ready .plain := by
  induction requests with
  | nil => exact ⟨[], rfl, rfl⟩
  | cons r requests ih =>
    obtain ⟨bytes, hbytes, hplain⟩ := exists_job (h r (List.mem_cons_self ..))
    obtain ⟨sent, hsent, hrest⟩ := ih fun other hother => h other (List.mem_cons_of_mem _ hother)
    refine ⟨bytes :: sent, ?_, ?_⟩
    · rw [List.mapM_cons, hbytes, hsent]
      rfl
    · rw [List.flatten_cons, Printer.feedAll_append, hplain, hrest]

end TextRequest

/-- Behind any text jobs that a printer in plain style has read, the next job is sent, and its body begins in plain
style.  Behind the body the printer is in the style that was kept while it was compiled, and at the end of the job
in plain style. -/
theorem plain_before_each_body {before : List TextRequest} {r : TextRequest} (hbefore : ∀ q ∈ before, q.Fit)
    (hr : r.Fit) :
    ∃ sent c, before.mapM TextRequest.job = .ok sent ∧ r.compiled = .ok c ∧
      r.job = .ok (r.header ++ c.body ++ r.footer c.style) ∧
      (ready .plain).feedAll (sent.flatten ++ r.header) = ready .plain ∧
      (ready .plain).feedAll c.body = ready c.style ∧
      (ready .plain).feedAll (r.header ++ c.body ++ r.footer c.style) = ready .plain := by
  obtain ⟨sent, hsent, hplain⟩ := TextRequest.exists_jobs hbefore
  obtain ⟨c, hc⟩ := hr.compiles
  have hbody : (ready .plain).feedAll c.body = ready c.style := feedAll_body hr.printsPlainText hc
  refine ⟨sent, c, hsent, hc, TextRequest.job_eq hr hc, ?_, hbody, ?_⟩
  · rw [Printer.feedAll_append, hplain, TextRequest.feedAll_header]
  · rw [Printer.feedAll_append, Printer.feedAll_append, TextRequest.feedAll_header, hbody,
      TextRequest.feedAll_footer]

end Codecs

open scoped Libraries

/-- A job that leaves a centred cell, emphasis and double size open. -/
private def unclosed : TextRequest := ⟨{}, .text "<td><b>a</td><h1>b".toList, none, some (-1)⟩

private def unclosedTokens : List Token :=
  [⟨.cellOpen, "<td>".toList⟩, ⟨.bold true, "<b>".toList⟩, ⟨.text, ['a']⟩, ⟨.cellClose, "</td>".toList⟩,
    ⟨.double true, "<h1>".toList⟩, ⟨.text, ['b']⟩]

private theorem laidOutRows_unclosed : laidOutRows unclosed.settings unclosed.document =
    .ok [[centering, ⟨.bold true, "<b>".toList⟩, ⟨.text, ['a']⟩, ⟨.double true, "<h1>".toList⟩, ⟨.text, ['b']⟩]] := by
  have hread : readTokens "<td><b>a</td><h1>b".toList = .ok unclosedTokens := by cbv
  have hrows : rowsOf unclosedTokens = [unclosedTokens] := by decide
  have harrange : arrange unclosedTokens 32 =
      [centering, ⟨.bold true, "<b>".toList⟩, ⟨.text, ['a']⟩, ⟨.double true, "<h1>".toList⟩, ⟨.text, ['b']⟩] := by cbv
  rw [unclosed, laidOutRows_text hread, hrows]
  exact congrArg (fun row => Except.ok [row]) harrange

private theorem fit_unclosed : unclosed.Fit where
  validated := ⟨[], by simp [unclosed, Settings.validate, Settings.rules, Settings.applyRule, Members.find?]⟩
  compiles := ⟨⟨[0x1B, 0x61, 1, 0x1B, 0x45, 1, 0x61, 0x1D, 0x21, 0x11, 0x62], ⟨true, true, .center⟩⟩,
    compileFrom_eq_ok_iff.2 ⟨_, laidOutRows_unclosed, by rfl, by rfl⟩⟩
  printsPlainText := by
    intro rows hrows row hrow t ht hkind bytes hbytes
    rw [laidOutRows_unclosed, Except.ok.injEq] at hrows
    subst hrows
    have hencode := isPage_cp437.encode t.raw
    rw [show unclosed.settings.encoding = "cp437" from rfl, hencode, Except.ok.injEq] at hbytes
    subst hbytes
    simp only [List.mem_singleton] at hrow
    subst hrow
    simp only [List.mem_cons, List.not_mem_nil, or_false] at ht
    rcases ht with rfl | rfl | rfl | rfl | rfl <;> revert hkind <;> decide

/-- Behind the job that leaves its styles open, the same job begins in plain style again. -/
theorem plain_before_body_behind_unclosed :
    ∃ sent c, [unclosed].mapM TextRequest.job = .ok sent ∧ unclosed.compiled = .ok c ∧
      unclosed.job = .ok (unclosed.header ++ c.body ++ unclosed.footer c.style) ∧
      (ready .plain).feedAll (sent.flatten ++ unclosed.header) = ready .plain ∧
      (ready .plain).feedAll c.body = ready c.style ∧
      (ready .plain).feedAll (unclosed.header ++ c.body ++ unclosed.footer c.style) = ready .plain :=
  plain_before_each_body (by simpa using fit_unclosed) fit_unclosed

end ThermalPress
