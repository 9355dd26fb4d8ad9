import ThermalPress.Proofs.Markup.Cells
import ThermalPress.Proofs.Markup.Literals
import ThermalPress.Proofs.Markup.Stripping

/-!
# The width of two columns

The gap between two columns is what their visible texts leave of the line, where visible is what the scan for tags
leaves of the characters that a cell was read from.  The scan takes every tag of a cell out and sometimes some of its
text, so that a cell never counts as wider than its text is (`visibleWidth_le_textLength`), and counts as just as wide
if no text of it holds a `<` (`visibleWidth_eq_textLength`).  Hence two columns fill their line (`columns_fill_line`).
-/

namespace ThermalPress

/-- The number of characters of the text tokens. -/
def textLength (tokens : List Token) : Nat := (rawText (texts tokens)).length

section TextLength

variable {t : Token} {tokens : List Token}

private theorem textLength_cons_of_text (ht : t.kind = .text) :
    textLength (t :: tokens) = t.raw.length + textLength tokens := by
  simp [textLength, texts, rawText, ht]

private theorem textLength_cons_of_ne_text (ht : t.kind ≠ .text) : textLength (t :: tokens) = textLength tokens := by
  simp [textLength, texts, ht]

theorem textLength_append (tokens others : List Token) :
    textLength (tokens ++ others) = textLength tokens + textLength others := by
  simp [textLength, texts_append, rawText]

end TextLength

/-- Unless it is text, the token has the characters of a tag. -/
def Token.TextOrTag (t : Token) : Prop := t.kind ≠ .text → ∃ inner, '>' ∉ inner ∧ t.raw = angled inner

/-- No text of the tokens holds a `<`. -/
def FreeOfAngles (tokens : List Token) : Prop := ∀ t ∈ tokens, t.kind = .text → '<' ∉ t.raw

/-! ### The visible width of tokens -/

section Tokens

variable {tokens : List Token}

private theorem rawText_cons_of_tag {t : Token} {inner : List Char} (hraw : t.raw = angled inner) :
    rawText (t :: tokens) = '<' :: (inner ++ '>' :: rawText tokens) := by
  simp [rawText, hraw, angled]

/-- Behind any text, tokens make it wider by no more than their own text. -/
private theorem visibleWidth_append_le (h : ∀ t ∈ tokens, t.TextOrTag) (before : List Char) :
    visibleWidth (before ++ rawText tokens) ≤ before.length + textLength tokens := by
  induction tokens generalizing before with
  | nil =>
    have hbefore := (withoutTags_sublist before).length_le
    simp only [visibleWidth, rawText, List.flatMap_nil, List.append_nil]
    omega
  | cons t tokens ih =>
    have hrest : ∀ u ∈ tokens, u.TextOrTag := fun u hu => h u (List.mem_cons_of_mem _ hu)
    by_cases ht : t.kind = .text
    · -- text may stand inside of a stretch that is open, so it goes with what is in front
      have hbehind := ih hrest (before ++ t.raw)
      have hsplit : before ++ rawText (t :: tokens) = before ++ t.raw ++ rawText tokens := by simp [rawText]
      rw [hsplit, textLength_cons_of_text ht]
      rw [List.length_append] at hbehind
      omega
    · -- no stretch is open behind a tag, and nothing of the tag is left
      obtain ⟨inner, hinner, hraw⟩ := h t (List.mem_cons_self ..) ht
      have hfront := (withoutTags_tag_sublist before hinner).length_le
      have hbehind := ih hrest []
      have hsplit : before ++ rawText (t :: tokens) = (before ++ '<' :: inner) ++ '>' :: rawText tokens := by
        simp [rawText_cons_of_tag hraw]
      have htag : (before ++ '<' :: inner) ++ ['>'] = before ++ '<' :: (inner ++ ['>']) := by simp
      rw [visibleWidth, hsplit, withoutTags_close, htag, List.length_append, textLength_cons_of_ne_text ht]
      simp only [visibleWidth, List.nil_append, List.length_nil] at hbehind
      omega

theorem visibleWidth_le_textLength (h : ∀ t ∈ tokens, t.TextOrTag) :
    visibleWidth (rawText tokens) ≤ textLength tokens := by
  simpa using visibleWidth_append_le h []

/-- Of tokens whose text holds no `<`, the scan leaves their text. -/
theorem withoutTags_rawText (h : ∀ t ∈ tokens, t.TextOrTag) (hangles : FreeOfAngles tokens) :
    withoutTags (rawText tokens) = rawText (texts tokens) :=
  withoutTags_rawText_filter (fun t ht htext => hangles t ht (by simpa using htext))
    fun t ht htag => h t ht (by simpa using htag)

theorem visibleWidth_eq_textLength (h : ∀ t ∈ tokens, t.TextOrTag) (hangles : FreeOfAngles tokens) :
    visibleWidth (rawText tokens) = textLength tokens := by
  rw [visibleWidth, withoutTags_rawText h hangles, textLength]

end Tokens

/-! ### The cells of a document -/

section Document

variable {document : List Char} {tokens : List Token} {row : Row}

private theorem textOrTag_of_mem_row (hread : readTokens document = .ok tokens) (hrow : row ∈ rowsOf tokens) :
    ∀ t ∈ row, t.TextOrTag := by
  intro t ht hkind
  obtain ⟨hmem, hbegins, -⟩ := mem_of_mem_rowsOf hrow ht
  rcases (rawText_of_scan hread).2 t hmem with ⟨inner, hraw, hspelling⟩ | rfl | ⟨htext, -, -⟩
  · exact ⟨inner, hspelling.not_mem.2, hraw⟩
  · cases hbegins
  · exact absurd htext hkind

private theorem textOrTag_markerAsText {t : Token} (h : t.TextOrTag) : (markerAsText t).TextOrTag := by
  unfold markerAsText
  split
  · exact fun hkind => absurd rfl hkind
  · exact h

/-- A cell without its alignment holds text and tags. -/
private theorem textOrTag_of_mem_cell (hread : readTokens document = .ok tokens) (hrow : row ∈ rowsOf tokens)
    {cell : Row} (hcell : cell ∈ (splitCells row).cells) : ∀ t ∈ dropAlignment cell, t.TextOrTag := by
  intro t ht
  obtain ⟨u, hu, rfl⟩ := exists_of_mem_cells hcell (mem_of_mem_dropAlignment ht)
  exact textOrTag_markerAsText (textOrTag_of_mem_row hread hrow u hu)

end Document

/-! ### Columns -/

/-- Two cells and the blanks between them. -/
def columns (left right : Row) (width : Int) : Row := left ++ blanks (gapBetween left right width) :: right

section Columns

variable {left right : Row} {width : Int}

private theorem textLength_columns :
    textLength (columns left right width) = textLength left + gapBetween left right width + textLength right := by
  have hblanks : (blanks (gapBetween left right width)).kind = .text := rfl
  rw [columns, textLength_append, textLength_cons_of_text hblanks]
  simp only [blanks, List.length_replicate]
  omega

private theorem gapBetween_eq (left right : Row) (width : Int) : (gapBetween left right width : Int) =
    max 1 (width - (visibleWidth (rawText left) + visibleWidth (rawText right))) := by
  rw [gapBetween]
  omega

/-- Cells that are no wider than their texts fill the line. -/
private theorem width_le_textLength_columns (hleft : visibleWidth (rawText left) ≤ textLength left)
    (hright : visibleWidth (rawText right) ≤ textLength right) : width ≤ textLength (columns left right width) := by
  have hgap := gapBetween_eq left right width
  rw [textLength_columns]
  omega

/-- Cells that are as wide as their texts fill the line exactly, or stand one blank apart. -/
private theorem textLength_columns_of_eq (hleft : visibleWidth (rawText left) = textLength left)
    (hright : visibleWidth (rawText right) = textLength right) :
    (textLength (columns left right width) : Int) =
      if (textLength left + textLength right : Int) < width then width else textLength left + textLength right + 1 := by
  have hgap := gapBetween_eq left right width
  rw [textLength_columns]
  split <;> omega

end Columns

/-- The two columns of a row fill the line with characters of text, the blanks between them included.  A cell never
counts as wider than its text is.  Where no text of the two holds a `<`, each counts as wide as its text, and the
columns fill the line exactly or, if that is too short, have one blank between them. -/
theorem columns_fill_line {document : List Char} {tokens : List Token} {row first second outside : Row}
    {more : List Row} (hread : readTokens document = .ok tokens) (hrow : row ∈ rowsOf tokens)
    (hcells : splitCells row = ⟨first :: second :: more, outside⟩) (width : Int) :
    ∃ left right, left = dropAlignment first ∧ right = dropAlignment second ∧
      arrange row width = columns left right width ++ outside ∧
      (∀ cell ∈ [left, right], visibleWidth (rawText cell) ≤ textLength cell ∧
        (FreeOfAngles cell → visibleWidth (rawText cell) = textLength cell)) ∧
      width ≤ textLength (columns left right width) ∧
      (FreeOfAngles left → FreeOfAngles right → (textLength (columns left right width) : Int) =
        if (textLength left + textLength right : Int) < width then width
        else textLength left + textLength right + 1) := by
  have hleft : ∀ t ∈ dropAlignment first, t.TextOrTag := textOrTag_of_mem_cell hread hrow (by simp [hcells])
  have hright : ∀ t ∈ dropAlignment second, t.TextOrTag := textOrTag_of_mem_cell hread hrow (by simp [hcells])
  refine ⟨_, _, rfl, rfl, ?_, ?_, ?_, ?_⟩
  · simp [arrange, hcells, columns]
  · intro cell hcell
    simp only [List.mem_cons, List.not_mem_nil, or_false] at hcell
    rcases hcell with rfl | rfl
    · exact ⟨visibleWidth_le_textLength hleft, visibleWidth_eq_textLength hleft⟩
    · exact ⟨visibleWidth_le_textLength hright, visibleWidth_eq_textLength hright⟩
  · exact width_le_textLength_columns (visibleWidth_le_textLength hleft) (visibleWidth_le_textLength hright)
  · intro hfree hfree'
    exact textLength_columns_of_eq (visibleWidth_eq_textLength hleft hfree) (visibleWidth_eq_textLength hright hfree')

/-- The tokens of two cells with tags in them and text around them, and of a third cell. -/
private def sideBySide : Row :=
  [⟨.text, ['x']⟩, ⟨.cellOpen, "<td>".toList⟩, ⟨.align .right, "<right>".toList⟩, ⟨.text, ['a']⟩,
    ⟨.bold true, "<b>".toList⟩, ⟨.text, ['b']⟩, ⟨.cellClose, "</td>".toList⟩, ⟨.text, ['y']⟩,
    ⟨.cellOpen, "<td>".toList⟩, ⟨.text, ['c', '>', 'd']⟩, ⟨.cellClose, "</td>".toList⟩,
    ⟨.cellOpen, "<td>".toList⟩, ⟨.text, ['e']⟩, ⟨.cellClose, "</td>".toList⟩]

/-- Columns of two and of three characters fill a line of eight, and take six where there is room for five. -/
theorem columns_fill_line_narrow :
    ∃ left right, arrange sideBySide 8 = columns left right 8 ++ [⟨.text, ['x']⟩, ⟨.text, ['y']⟩] ∧
      textLength (columns left right 8) = 8 ∧ textLength (columns left right 5) = 6 := by
  have hread : readTokens "x<td><right>a<b>b</td>y<td>c>d</td><td>e</td>".toList = .ok sideBySide := by cbv
  have hrow : sideBySide ∈ rowsOf sideBySide := by decide
  have hcells : splitCells sideBySide = ⟨[⟨.align .right, "<right>".toList⟩, ⟨.text, ['a']⟩,
      ⟨.bold true, "<b>".toList⟩, ⟨.text, ['b']⟩] :: [⟨.text, ['c', '>', 'd']⟩] :: [[⟨.text, ['e']⟩]],
      [⟨.text, ['x']⟩, ⟨.text, ['y']⟩]⟩ := by cbv
  obtain ⟨left, right, hleft, hright, harrange, -, -, hwide⟩ := columns_fill_line hread hrow hcells 8
  obtain ⟨_, _, rfl, rfl, -, -, -, hnarrow⟩ := columns_fill_line hread hrow hcells 5
  subst hleft hright
  have hfree := hwide (by unfold FreeOfAngles; decide) (by unfold FreeOfAngles; decide)
  have htight := hnarrow (by unfold FreeOfAngles; decide) (by unfold FreeOfAngles; decide)
  exact ⟨_, _, harrange, Int.ofNat_inj.1 (hfree.trans (by decide)), Int.ofNat_inj.1 (htight.trans (by decide))⟩

end ThermalPress
