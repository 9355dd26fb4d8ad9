import Mathlib.Data.List.TakeWhile
import ThermalPress.Proofs.Markup.Pairing

/-!
# Rows without cells

A row has cells exactly if one of its opening cell markers is followed, anywhere later in the row, by a closing one
(`cells_eq_nil_iff`).  The layout leaves a row without cells as it is (`arrange_of_unpaired`), and it leaves no row with
cells (`unpaired_arrange`): the markers of the cells are taken out, and every other marker becomes text.  So a row that
is laid out stays as it is, on a line of whatever width (`arrange_arrange`).
-/

namespace ThermalPress

/-- No opening cell marker of the row is followed by a closing one. -/
def Unpaired (row : Row) : Prop := row.Pairwise fun t u => ¬ (t.kind = .cellOpen ∧ u.kind = .cellClose)

private theorem dropWhile_ne_cellClose_eq_nil_iff {row : Row} :
    row.dropWhile (·.kind ≠ .cellClose) = [] ↔ ∀ t ∈ row, t.kind ≠ .cellClose := by
  simp [List.dropWhile_eq_nil_iff]

private theorem unpaired_of_forall_ne_cellClose {row : Row} (h : ∀ t ∈ row, t.kind ≠ .cellClose) :
    Unpaired row := by
  apply List.pairwise_of_forall_mem_list
  intro t _ u hu hpair
  exact h u hu hpair.2

/-- A row has no cells exactly if none of its opening markers finds a closing one. -/
theorem cells_eq_nil_iff (row : Row) : (splitCells row).cells = [] ↔ Unpaired row := by
  fun_induction splitCells row with
  | case1 => simp [Unpaired]
  | case2 t row ht close after hafter rest ih =>
    -- The opening marker finds a closing one, so there is a cell and a pair.
    have hclose : ¬ ∀ u ∈ row, u.kind ≠ .cellClose := by
      rw [← dropWhile_ne_cellClose_eq_nil_iff, hafter]
      simp
    simp only [reduceCtorEq, Unpaired, List.pairwise_cons, false_iff, not_and]
    intro hpairs
    exact absurd (fun u hu => hpairs u hu ht) hclose
  | case3 t row ht hafter =>
    have hnone := dropWhile_ne_cellClose_eq_nil_iff.1 hafter
    simp only [Unpaired, List.pairwise_cons, true_iff]
    exact ⟨fun u hu hpair => hnone u hu hpair.2, unpaired_of_forall_ne_cellClose hnone⟩
  | case4 t row ht rest ih =>
    simp [Unpaired, List.pairwise_cons, ht, rest, ih]

/-- The layout leaves a row without cells as it is. -/
theorem arrange_of_unpaired {row : Row} (h : Unpaired row) (width : Int) : arrange row width = row := by
  have hcells := (cells_eq_nil_iff row).2 h
  unfold arrange
  split
  · rfl
  all_goals
    rename_i heq
    rw [heq] at hcells
    simp at hcells

/-! ### Where the tokens of a laid out row come from -/

theorem markerAsText_kind (t : Token) :
    (markerAsText t).kind ≠ .cellOpen ∧ (markerAsText t).kind ≠ .cellClose := by
  unfold markerAsText
  split
  · simp
  · next hmarker => exact not_or.1 hmarker

section Cells

variable {row : Row} {t : Token}

/-- What stands in a cell stands in the row, where markers may be what they are not in the cell. -/
theorem exists_of_mem_cells {cell : Row} (hcell : cell ∈ (splitCells row).cells) (ht : t ∈ cell) :
    ∃ u ∈ row, t = markerAsText u := by
  obtain ⟨p, hp, hsplit⟩ := exists_parts row
  rw [hsplit] at hcell
  obtain ⟨c, hc, rfl⟩ := List.mem_map.1 hcell
  obtain ⟨u, hu, rfl⟩ := List.mem_map.1 ht
  have htokens : u ∈ p.cells.flatMap PairedCell.tokens :=
    List.mem_flatMap.2 ⟨c, hc, by simp [PairedCell.tokens, hu]⟩
  refine ⟨u, ?_, rfl⟩
  rw [← hp.tokens]
  exact List.mem_append_left _ (List.mem_append_right _ htokens)

theorem exists_of_mem_outside (ht : t ∈ (splitCells row).outside) : ∃ u ∈ row, t = markerAsText u := by
  obtain ⟨p, hp, hsplit⟩ := exists_parts row
  rw [hsplit] at ht
  obtain ⟨u, hu, rfl⟩ := List.mem_map.1 ht
  refine ⟨u, ?_, rfl⟩
  simp only [Parting.outside, List.mem_append, List.mem_flatMap] at hu
  rw [← hp.tokens]
  simp only [List.mem_append, List.mem_flatMap]
  rcases hu with (hu | ⟨c, hc, hu⟩) | hu
  · exact .inl (.inl hu)
  · exact .inl (.inr ⟨c, hc, by simp [PairedCell.tokens, hu]⟩)
  · exact .inr hu

theorem mem_of_mem_dropAlignment {cell : Row} (ht : t ∈ dropAlignment cell) : t ∈ cell := (List.mem_filter.1 ht).1

/-- A laid out row with cells holds tokens of the row, markers as text, and what the layout adds. -/
theorem mem_arrange {width : Int} (hcells : (splitCells row).cells ≠ []) (ht : t ∈ arrange row width) :
    (∃ u ∈ row, t = markerAsText u) ∨ t = centering ∨ ∃ count, t = blanks count := by
  have hcell : ∀ cell ∈ (splitCells row).cells, t ∈ dropAlignment cell → ∃ u ∈ row, t = markerAsText u :=
    fun cell hcell ht => exists_of_mem_cells hcell (mem_of_mem_dropAlignment ht)
  have houtside : t ∈ (splitCells row).outside → ∃ u ∈ row, t = markerAsText u := exists_of_mem_outside
  unfold arrange at ht
  split at ht
  · next hsplit => simp [hsplit] at hcells
  · next cell outside hsplit =>
    rw [hsplit] at hcell houtside
    simp only [List.mem_cons, List.mem_append] at ht
    rcases ht with ht | ht | ht
    · exact .inr (.inl ht)
    · exact .inl (hcell cell (by simp) ht)
    · exact .inl (houtside ht)
  · next first second more outside hsplit =>
    rw [hsplit] at hcell houtside
    simp only [List.mem_append, List.mem_cons] at ht
    rcases ht with ht | ht | ht | ht
    · exact .inl (hcell first (by simp) ht)
    · exact .inr (.inr ⟨_, ht⟩)
    · exact .inl (hcell second (by simp) ht)
    · exact .inl (houtside ht)

end Cells

/-! ### Laying a row out again -/

/-- A row that is laid out has no cells. -/
theorem unpaired_arrange (row : Row) (width : Int) : Unpaired (arrange row width) := by
  by_cases hcells : (splitCells row).cells = []
  · have hrow := (cells_eq_nil_iff row).1 hcells
    rw [arrange_of_unpaired hrow]
    exact hrow
  · -- every opening marker is taken out with its cell or has become text
    have hopen : ∀ t ∈ arrange row width, t.kind ≠ .cellOpen := by
      intro t ht
      rcases mem_arrange hcells ht with ⟨u, -, rfl⟩ | rfl | ⟨count, rfl⟩
      · exact (markerAsText_kind u).1
      · simp [centering]
      · simp [blanks]
    refine List.pairwise_of_forall_mem_list fun t ht u _ hpair => ?_
    exact hopen t ht hpair.1

/-- The layout changes nothing in a row that is laid out. -/
theorem arrange_arrange (row : Row) (width other : Int) : arrange (arrange row width) other = arrange row width :=
  arrange_of_unpaired (unpaired_arrange row width) other

/-! A marker inside a cell is text in the laid out row, where it opens no cell with the one behind it. -/

example : arrange (arrange [⟨.cellOpen, "<td>".toList⟩, ⟨.cellOpen, "<TD>".toList⟩, ⟨.cellClose, "</td>".toList⟩,
      ⟨.text, ['a']⟩, ⟨.cellClose, "</TD>".toList⟩] 32) 5 =
    [centering, ⟨.text, "<TD>".toList⟩, ⟨.text, ['a']⟩, ⟨.text, "</TD>".toList⟩] := by
  cbv

end ThermalPress
