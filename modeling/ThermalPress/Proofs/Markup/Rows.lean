import Mathlib.Data.List.TakeWhile
import ThermalPress.Markup.Row

/-!
# Cutting tokens into rows

The rows of a document, read off its tokens.  The run of `<tr>` that a document opens with is simply left out
(`rowsOf_eq_cutRows`), so only the cutting itself remains.  The rows hold all tokens but the markers of rows, in their
order (`flatten_rowsOf`), and there is one row more than there are tokens that begin one (`length_cutRows`): each row is
one of the spans between these, and stays even if nothing is left of it (`rowsOf_eq_map_spans`).  Whatever bytes stand
for a token, as long as a marker that begins a row has the bytes of the separator and `</tr>` has none, the
bytes of the rows with separators between them are the bytes of the tokens one after another (`intercalate_cutRows`).
-/

namespace ThermalPress

/-- The tokens behind the run of `<tr>` that they open with. -/
def afterOpening (tokens : List Token) : List Token := tokens.dropWhile fun t => t.kind = .rowStart

theorem cutRows_ne_nil (tokens : List Token) : cutRows tokens ≠ [] := by
  induction tokens with
  | nil => simp [cutRows]
  | cons t tokens ih =>
    unfold cutRows
    split
    · simp
    · split
      · exact ih
      · unfold consToken
        split <;> simp

private theorem trimOpening_of_not_rowStart {t : Token} (ht : t.kind ≠ .rowStart) (tokens : List Token)
    (rows : List Row) : trimOpening (t :: tokens) rows = rows := by
  unfold trimOpening
  split
  · rename_i u _ row rest heq
    simp only [List.cons.injEq] at heq
    rw [← heq.1, if_neg ht]
  · rfl

/-- The run of `<tr>` that a document opens with leaves no trace in its rows. -/
theorem rowsOf_eq_cutRows (tokens : List Token) : rowsOf tokens = cutRows (afterOpening tokens) := by
  unfold rowsOf afterOpening
  induction tokens with
  | nil => simp [cutRows, trimOpening]
  | cons t tokens ih =>
    by_cases ht : t.kind = .rowStart
    · have hbegin : t.beginsRow = true := by simp [Token.beginsRow, ht]
      obtain ⟨row, rows, hrows⟩ := List.exists_cons_of_ne_nil (cutRows_ne_nil tokens)
      simp only [cutRows, hbegin, ↓reduceIte, List.dropWhile_cons, ht, decide_true]
      rw [← ih, hrows, trimOpening, if_pos ht]
    · rw [trimOpening_of_not_rowStart ht]
      simp [ht]

private theorem flatten_consToken (t : Token) (rows : List Row) : (consToken t rows).flatten = t :: rows.flatten := by
  cases rows <;> rfl

/-- The rows hold the tokens in their order, without those that mark rows. -/
theorem flatten_cutRows (tokens : List Token) :
    (cutRows tokens).flatten = tokens.filter fun t => !t.beginsRow && t.kind ≠ .rowEnd := by
  induction tokens with
  | nil => rfl
  | cons t tokens ih =>
    rw [cutRows]
    split
    · next ht => simp [ht, ih]
    · next ht =>
      split
      · next hend => simp [hend, ih]
      · next hend => simp [flatten_consToken, ht, hend, ih]

/-- The rows of a document hold all its tokens but those that mark rows. -/
theorem flatten_rowsOf (tokens : List Token) :
    (rowsOf tokens).flatten = tokens.filter fun t => !t.beginsRow && t.kind ≠ .rowEnd := by
  have hopening : (tokens.takeWhile fun t => t.kind = .rowStart).filter
      (fun t => !t.beginsRow && t.kind ≠ .rowEnd) = [] := by
    refine List.filter_eq_nil_iff.2 fun t ht => ?_
    have hstart : t.kind = .rowStart := by simpa using List.mem_takeWhile_imp ht
    simp [Token.beginsRow, hstart]
  have hsplit : (tokens.takeWhile fun t => t.kind = .rowStart) ++ afterOpening tokens = tokens :=
    List.takeWhile_append_dropWhile
  calc (rowsOf tokens).flatten
      = (afterOpening tokens).filter fun t => !t.beginsRow && t.kind ≠ .rowEnd := by
        rw [rowsOf_eq_cutRows, flatten_cutRows]
    _ = ((tokens.takeWhile fun t => t.kind = .rowStart) ++ afterOpening tokens).filter
          fun t => !t.beginsRow && t.kind ≠ .rowEnd := by
        rw [List.filter_append, hopening, List.nil_append]
    _ = tokens.filter fun t => !t.beginsRow && t.kind ≠ .rowEnd := by rw [hsplit]

theorem mem_of_mem_rowsOf {tokens : List Token} {row : Row} (hrow : row ∈ rowsOf tokens) {t : Token} (ht : t ∈ row) :
    t ∈ tokens ∧ t.beginsRow = false ∧ t.kind ≠ .rowEnd := by
  have hmem : t ∈ (rowsOf tokens).flatten := List.mem_flatten.2 ⟨row, hrow, ht⟩
  rw [flatten_rowsOf, List.mem_filter] at hmem
  simpa using hmem

/-! ### The number of rows -/

private theorem length_consToken (t : Token) {rows : List Row} (hrows : rows ≠ []) :
    (consToken t rows).length = rows.length := by
  obtain ⟨row, rows, rfl⟩ := List.exists_cons_of_ne_nil hrows
  rfl

/-- There is one row more than there are tokens that begin one. -/
theorem length_cutRows (tokens : List Token) : (cutRows tokens).length = tokens.countP Token.beginsRow + 1 := by
  induction tokens with
  | nil => rfl
  | cons t tokens ih =>
    rw [cutRows]
    split
    · next ht => rw [List.length_cons, ih, List.countP_cons_of_pos ht]
    · next ht =>
      rw [List.countP_cons_of_neg ht]
      split
      · exact ih
      · rw [length_consToken t (cutRows_ne_nil tokens), ih]

/-! ### Rows as spans of tokens -/

/-- The tokens between those that begin a row. -/
def spans (tokens : List Token) : List (List Token) := tokens.splitOnP Token.beginsRow

/-- The row of a span: `</tr>` leaves no trace. -/
def rowOfSpan (span : List Token) : Row := span.filter fun t => t.kind ≠ .rowEnd

private theorem map_rowOfSpan_cons (t : Token) {spans : List (List Token)} (hspans : spans ≠ []) :
    (spans.modifyHead (List.cons t)).map rowOfSpan =
      if t.kind = .rowEnd then spans.map rowOfSpan else consToken t (spans.map rowOfSpan) := by
  obtain ⟨span, spans, rfl⟩ := List.exists_cons_of_ne_nil hspans
  by_cases hend : t.kind = .rowEnd
  · simp [rowOfSpan, hend]
  · simp [rowOfSpan, hend, consToken]

theorem cutRows_eq_map_spans (tokens : List Token) : cutRows tokens = (spans tokens).map rowOfSpan := by
  unfold spans
  induction tokens with
  | nil => rfl
  | cons t tokens ih =>
    rw [List.splitOnP_cons_eq_if_modifyHead, cutRows]
    by_cases hbegins : t.beginsRow = true
    · rw [if_pos hbegins, if_pos hbegins, List.map_cons, ← ih]
      rfl
    · rw [if_neg hbegins, if_neg hbegins, map_rowOfSpan_cons t (List.splitOnP_ne_nil _ _), ← ih]

theorem rowOfSpan_eq_nil_iff {span : List Token} : rowOfSpan span = [] ↔ ∀ t ∈ span, t.kind = .rowEnd := by
  simp [rowOfSpan, List.filter_eq_nil_iff]

/-- Without the run of `<tr>` that tokens open with, each row is what stands between two tokens that begin one, less its
`</tr>`.  So there is one row more than there are such tokens, the rows hold all other tokens in their order, and a row
is empty exactly if there is nothing but `</tr>` in its place. -/
theorem rowsOf_eq_map_spans (tokens : List Token) :
    rowsOf tokens = (spans (afterOpening tokens)).map rowOfSpan ∧ rowsOf tokens ≠ [] ∧
      (rowsOf tokens).length = (afterOpening tokens).countP Token.beginsRow + 1 ∧
      (rowsOf tokens).flatten =
        tokens.filter (fun t => t.kind ≠ .rowStart && t.kind ≠ .newline && t.kind ≠ .rowEnd) ∧
      ∀ i : Nat, (rowsOf tokens)[i]? = some [] ↔
        ∃ span, (spans (afterOpening tokens))[i]? = some span ∧ ∀ t ∈ span, t.kind = .rowEnd := by
  have hrows : rowsOf tokens = (spans (afterOpening tokens)).map rowOfSpan := by
    rw [rowsOf_eq_cutRows, cutRows_eq_map_spans]
  refine ⟨hrows, ?_, ?_, ?_, fun i => ?_⟩
  · rw [rowsOf_eq_cutRows]
    exact cutRows_ne_nil _
  · rw [rowsOf_eq_cutRows, length_cutRows]
  · rw [flatten_rowsOf]
    refine List.filter_congr fun t _ => ?_
    simp [Token.beginsRow]
  · rw [hrows, List.getElem?_map, Option.map_eq_some_iff]
    simp only [rowOfSpan_eq_nil_iff]

/-- Of the rows that are empty here only the first two, which the document opens with, are taken away. -/
example : rowsOf [⟨.rowStart, "<tr>".toList⟩, ⟨.rowStart, "<TR>".toList⟩, ⟨.rowEnd, "</tr>".toList⟩,
    ⟨.newline, ['\n']⟩, ⟨.rowStart, "<tr>".toList⟩, ⟨.rowEnd, "</tr>".toList⟩, ⟨.newline, ['\n']⟩,
    ⟨.text, ['a']⟩, ⟨.rowStart, "<tr>".toList⟩] = [[], [], [], [⟨.text, ['a']⟩], []] := by decide

/-! ### The bytes of rows -/

section Bytes

variable {α : Type} {separator : List α} {image : Token → List α}

private theorem intercalate_consToken (t : Token) {rows : List Row} (hrows : rows ≠ []) :
    separator.intercalate ((consToken t rows).map (List.flatMap image)) =
      image t ++ separator.intercalate (rows.map (List.flatMap image)) := by
  obtain ⟨row, rows, rfl⟩ := List.exists_cons_of_ne_nil hrows
  cases rows <;> simp [consToken, List.intercalate]

/-- The bytes of rows with separators between them are the bytes of the tokens that they were cut from. -/
theorem intercalate_cutRows (hbegin : ∀ t : Token, t.beginsRow = true → image t = separator)
    (hend : ∀ t : Token, t.kind = .rowEnd → image t = []) (tokens : List Token) :
    separator.intercalate ((cutRows tokens).map (List.flatMap image)) = tokens.flatMap image := by
  induction tokens with
  | nil => simp [cutRows, List.intercalate]
  | cons t tokens ih =>
    rw [List.flatMap_cons, ← ih, cutRows]
    split
    · rename_i ht
      rw [hbegin t ht]
      obtain ⟨row, rows, hrows⟩ := List.exists_cons_of_ne_nil (cutRows_ne_nil tokens)
      simp [hrows, List.intercalate]
    · split
      · rename_i ht
        rw [hend t ht, List.nil_append]
      · exact intercalate_consToken t (cutRows_ne_nil tokens)

end Bytes

end ThermalPress
