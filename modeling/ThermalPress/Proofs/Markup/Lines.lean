import ThermalPress.Proofs.Markup.Image
import ThermalPress.Proofs.Markup.Seams

/-!
# Compiling line by line

A document that two documents are joined to by a line feed compiles to what they compile to, with the line ends between
them (`documentBytes_join`).  Rows are cut at the seam (`cutRows_append`), so each keeps its layout, and the `<tr>` that
the second document opens with, trimmed when it stands alone, are rows of the whole.
-/

namespace ThermalPress

/-! ### Rows -/

private theorem consToken_append (t : Token) {rows : List Row} (hrows : rows ≠ []) (others : List Row) :
    consToken t (rows ++ others) = consToken t rows ++ others := by
  obtain ⟨row, rows, rfl⟩ := List.exists_cons_of_ne_nil hrows
  rfl

/-- Rows are cut at every line end. -/
theorem cutRows_append (tokens others : List Token) :
    cutRows (tokens ++ lineFeedToken :: others) = cutRows tokens ++ cutRows others := by
  induction tokens with
  | nil => simp [cutRows, lineFeedToken, Token.beginsRow]
  | cons t tokens ih =>
    simp only [List.cons_append, cutRows, ih]
    split
    · rfl
    · split
      · rfl
      · exact consToken_append t (cutRows_ne_nil tokens) _

/-- The number of `<tr>` that tokens open with. -/
def openingRows (tokens : List Token) : Nat := (tokens.takeWhile fun t => t.kind = .rowStart).length

/-- Each `<tr>` that tokens open with is an empty row. -/
theorem cutRows_opening (tokens : List Token) :
    cutRows tokens = List.replicate (openingRows tokens) [] ++ cutRows (afterOpening tokens) := by
  induction tokens with
  | nil => rfl
  | cons t tokens ih =>
    by_cases ht : t.kind = .rowStart
    · have hbegins : t.beginsRow = true := by simp [Token.beginsRow, ht]
      have hcount : openingRows (t :: tokens) = openingRows tokens + 1 := by simp [openingRows, ht]
      have hbehind : afterOpening (t :: tokens) = afterOpening tokens := by simp [afterOpening, ht]
      rw [cutRows, if_pos hbegins, hcount, hbehind, List.replicate_succ, List.cons_append, ← ih]
    · simp [openingRows, afterOpening, ht]

theorem afterOpening_append (tokens others : List Token) :
    afterOpening (tokens ++ lineFeedToken :: others) = afterOpening tokens ++ lineFeedToken :: others := by
  unfold afterOpening
  induction tokens with
  | nil => simp [lineFeedToken]
  | cons t tokens ih => by_cases ht : t.kind = .rowStart <;> simp [ht, ih]

/-- Of the tokens that begin a row, those that a document opens with begin none. -/
theorem length_rowsOf (tokens : List Token) :
    (rowsOf tokens).length + openingRows tokens = tokens.countP Token.beginsRow + 1 := by
  have hlength := congrArg List.length (cutRows_opening tokens)
  rw [length_cutRows, List.length_append, List.length_replicate, ← rowsOf_eq_cutRows] at hlength
  omega

/-- The rows of two lists of tokens with a line end between them. -/
theorem rowsOf_join (tokens others : List Token) : rowsOf (tokens ++ lineFeedToken :: others) =
    rowsOf tokens ++ (List.replicate (openingRows others) [] ++ rowsOf others) := by
  rw [rowsOf_eq_cutRows, rowsOf_eq_cutRows, rowsOf_eq_cutRows, afterOpening_append, cutRows_append,
    cutRows_opening others]

theorem rowsOf_ne_nil (tokens : List Token) : rowsOf tokens ≠ [] := by
  rw [rowsOf_eq_cutRows]
  exact cutRows_ne_nil _

theorem arrange_nil (width : Int) : arrange [] width = [] := by
  simp [arrange, splitCells]

/-! ### Bytes -/

private theorem intercalate_append {α : Type} {separator : List α} {rows others : List (List α)} (hrows : rows ≠ [])
    (hothers : others ≠ []) : separator.intercalate (rows ++ others) =
      separator.intercalate rows ++ separator ++ separator.intercalate others := by
  induction rows with
  | nil => exact absurd rfl hrows
  | cons row rows ih =>
    rw [List.cons_append, List.intercalate_cons_of_ne_nil (by simp [hothers])]
    by_cases hlast : rows = []
    · simp [hlast]
    · rw [ih hlast, List.intercalate_cons_of_ne_nil hlast]
      simp only [List.append_assoc]

section Codecs

variable [Codecs]

/-- The bytes of rows, then a line end, then the bytes of the rows behind them. -/
theorem rowsImage_append {encoding : String} {rows others : List Row} (hrows : rows ≠ []) (hothers : others ≠ []) :
    rowsImage encoding (rows ++ others) = do
      let above ← rowsImage encoding rows
      let below ← rowsImage encoding others
      return above ++ Command.lineEnd ++ below := by
  simp only [rowsImage, List.mapM_append]
  cases habove : rows.mapM (rowImage encoding) with
  | error e => rfl
  | ok above =>
    cases hbelow : others.mapM (rowImage encoding) with
    | error e => rfl
    | ok below =>
      exact congrArg Except.ok (intercalate_append (mapM_ne_nil habove hrows) (mapM_ne_nil hbelow hothers))

/-- Empty rows in front are as many line ends. -/
theorem rowsImage_replicate {encoding : String} (count : Nat) {rows : List Row} (hrows : rows ≠ []) :
    rowsImage encoding (List.replicate count [] ++ rows) =
      (rowsImage encoding rows).map ((List.replicate count Command.lineEnd).flatten ++ ·) := by
  induction count with
  | zero =>
    rw [List.replicate_zero, List.nil_append]
    cases rowsImage encoding rows <;> rfl
  | succ count ih =>
    have hempty : rowsImage encoding [[]] = .ok [] := rfl
    rw [List.replicate_succ, List.cons_append, ← List.singleton_append, rowsImage_append (by simp) (by simp [hrows]),
      ih, hempty]
    cases rowsImage encoding rows with
    | error e => rfl
    | ok bytes => exact congrArg Except.ok (by simp [List.replicate_succ])

theorem rowsImage_join {encoding : String} (count : Nat) {rows others : List Row} (hrows : rows ≠ [])
    (hothers : others ≠ []) : rowsImage encoding (rows ++ (List.replicate count [] ++ others)) = do
      let above ← rowsImage encoding rows
      let below ← rowsImage encoding others
      return above ++ (List.replicate (count + 1) Command.lineEnd).flatten ++ below := by
  rw [rowsImage_append hrows (by simp [hothers]), rowsImage_replicate count hothers]
  cases rowsImage encoding rows with
  | error e => rfl
  | ok above =>
    cases rowsImage encoding others with
    | error e => rfl
    | ok below => exact congrArg Except.ok (by simp [List.replicate_succ])

/-! ### Documents -/

theorem documentBytes_of_rows {settings : Settings} {document : Document} {rows : List Row}
    (h : laidOutRows settings document = .ok rows) :
    documentBytes settings document = liftM (rowsImage settings.encoding rows) := by
  have hcompiled : compileFrom settings .plain document =
      (liftM (rowsImage settings.encoding rows) : Except JobError Bytes).map (⟨·, styleAfter .plain rows⟩) := by
    rw [compileFrom, h]
    rfl
  rw [documentBytes, hcompiled]
  cases rowsImage settings.encoding rows <;> rfl

theorem laidOutRows_join {settings : Settings} {first second : List Char} {tokens others : List Token}
    (hfirst : readTokens first = .ok tokens) (hsecond : readTokens second = .ok others)
    (hreturn : first.getLast? ≠ some '\r') (hshares : ¬ SharesBreak first second) :
    laidOutRows settings (.text (first ++ '\n' :: second)) =
      .ok ((rowsOf tokens).map (arrange · settings.lineWidth) ++
        (List.replicate (openingRows others) [] ++ (rowsOf others).map (arrange · settings.lineWidth))) := by
  rw [laidOutRows_text (readTokens_join hfirst hsecond hreturn hshares), rowsOf_join]
  simp [arrange_nil]

/-- A document that two documents are joined to by a line feed compiles to the bytes of the two around one line end, and
one more for each `<tr>` that the second opens with.  It fails where one of the two fails, the first one first.  The
first must not end in a carriage return, which would make one line end with the line feed, and the line feed must not
be part of a line break. -/
theorem documentBytes_join {settings : Settings} {first second : List Char} {tokens others : List Token}
    (hfirst : readTokens first = .ok tokens) (hsecond : readTokens second = .ok others)
    (hreturn : first.getLast? ≠ some '\r') (hshares : ¬ SharesBreak first second) :
    documentBytes settings (.text (first ++ '\n' :: second)) = (do
      let above ← documentBytes settings (.text first)
      let below ← documentBytes settings (.text second)
      return above ++ (List.replicate (openingRows others + 1) Command.lineEnd).flatten ++ below) ∧
    laidOutRows settings (.text (first ++ '\n' :: second)) = (do
      let above ← laidOutRows settings (.text first)
      let below ← laidOutRows settings (.text second)
      return above ++ List.replicate (openingRows others) [] ++ below) := by
  have hrows : laidOutRows settings (.text (first ++ '\n' :: second)) = _ :=
    laidOutRows_join hfirst hsecond hreturn hshares
  constructor
  · rw [documentBytes_of_rows hrows, documentBytes_of_rows (laidOutRows_text hfirst),
      documentBytes_of_rows (laidOutRows_text hsecond),
      rowsImage_join _ (by simp [rowsOf_ne_nil]) (by simp [rowsOf_ne_nil])]
    generalize rowsImage settings.encoding ((rowsOf tokens).map (arrange · settings.lineWidth)) = above
    generalize rowsImage settings.encoding ((rowsOf others).map (arrange · settings.lineWidth)) = below
    cases above <;> cases below <;> rfl
  · rw [hrows, laidOutRows_text hfirst, laidOutRows_text hsecond]
    exact congrArg Except.ok (List.append_assoc ..).symm

end Codecs

open scoped Libraries

/-- The tokens of three columns and an unfinished line break. -/
private def columnTokens : List Token :=
  [⟨.cellOpen, "<td>".toList⟩, ⟨.text, ['a']⟩, ⟨.cellClose, "</td>".toList⟩, ⟨.cellOpen, "<td>".toList⟩,
    ⟨.text, ['b']⟩, ⟨.cellClose, "</td>".toList⟩, ⟨.cellOpen, "<td>".toList⟩, ⟨.text, ['c']⟩,
    ⟨.cellClose, "</td>".toList⟩, ⟨.text, "<br".toList⟩]

private theorem documentBytes_columns (h : readTokens "<td>a</td><td>b</td><td>c</td><br".toList = .ok columnTokens) :
    documentBytes {} (.text "<td>a</td><td>b</td><td>c</td><br".toList) =
      .ok (0x61 :: List.replicate 30 0x20 ++ [0x62, 0x3C, 0x62, 0x72]) := by
  have hrows : rowsOf columnTokens = [columnTokens] := by decide
  have harrange : arrange columnTokens 32 =
      [⟨.text, ['a']⟩, blanks 30, ⟨.text, ['b']⟩, ⟨.text, "<br".toList⟩] := by decide +kernel
  have himage : rowsImage "cp437" [[⟨.text, ['a']⟩, blanks 30, ⟨.text, ['b']⟩, ⟨.text, "<br".toList⟩]] =
      .ok (0x61 :: List.replicate 30 0x20 ++ [0x62, 0x3C, 0x62, 0x72]) := by
    rfl
  rw [documentBytes_of_rows (laidOutRows_text h), hrows, List.map_singleton, harrange, himage]
  rfl

/-- Three columns, of which one is dropped, and an unfinished line break do not reach into the next line, which begins
with two rows without content. -/
theorem documentBytes_join_unfinished :
    documentBytes {} (.text ("<td>a</td><td>b</td><td>c</td><br".toList ++ '\n' :: "<tr><TR></td>é".toList)) =
      .ok (0x61 :: List.replicate 30 0x20 ++ [0x62, 0x3C, 0x62, 0x72, 0x0D, 0x0A, 0x0D, 0x0A, 0x0D, 0x0A,
        0x3C, 0x2F, 0x74, 0x64, 0x3E, 0x82]) := by
  have hfirst : readTokens "<td>a</td><td>b</td><td>c</td><br".toList = .ok columnTokens := by cbv
  have hsecond : readTokens "<tr><TR></td>é".toList =
      .ok [⟨.rowStart, "<tr>".toList⟩, ⟨.rowStart, "<TR>".toList⟩, ⟨.cellClose, "</td>".toList⟩,
        ⟨.text, ['é']⟩] := by cbv
  have hjoined : readTokens ("<td>a</td><td>b</td><td>c</td><br".toList ++ '\n' :: "<tr><TR></td>é".toList) =
      .ok (columnTokens ++ [lineFeedToken, ⟨.rowStart, "<tr>".toList⟩, ⟨.rowStart, "<TR>".toList⟩,
        ⟨.cellClose, "</td>".toList⟩, ⟨.text, ['é']⟩]) := by cbv
  have hshares := not_sharesBreak_of_forall hjoined (by decide)
  have hbelow : documentBytes {} (.text "<tr><TR></td>é".toList) = .ok [0x3C, 0x2F, 0x74, 0x64, 0x3E, 0x82] := by
    rw [documentBytes_of_rows (laidOutRows_text hsecond)]
    have harrange : arrange [⟨.cellClose, "</td>".toList⟩, ⟨.text, ['é']⟩] 32 =
        [⟨.cellClose, "</td>".toList⟩, ⟨.text, ['é']⟩] := arrange_of_unpaired (by unfold Unpaired; decide) _
    rw [show rowsOf _ = [_] from rfl, List.map_singleton, harrange]
    rfl
  rw [(documentBytes_join hfirst hsecond (by decide) hshares).1, documentBytes_columns hfirst, hbelow]
  rfl

end ThermalPress
