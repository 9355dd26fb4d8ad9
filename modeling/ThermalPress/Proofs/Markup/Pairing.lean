import Mathlib.Data.List.Flatten
import Mathlib.Data.List.Perm.Basic
import Mathlib.Data.List.TakeWhile
import ThermalPress.Markup.Columns

/-!
# Cells as pairs of markers

Every row is made up in exactly one way of paired cell markers with what stands between and behind them, and of a tail
with an opening marker that finds no closing one (`exists_parts`, `Parts.unique`).  The layout of the row is said in
terms of these parts (`arrange_parts`): the cells come first, without their alignment, then everything else in its
order, and with no more than two cells nothing else of the row is lost.
-/

namespace ThermalPress

/-- A pair of cell markers with the tokens between them, and the tokens behind it. -/
structure PairedCell where
  opener : Token
  content : Row
  closer : Token
  behind : Row
  deriving DecidableEq, Repr

/-- The tokens of a pair, and those behind it. -/
def PairedCell.tokens (c : PairedCell) : Row := c.opener :: (c.content ++ c.closer :: c.behind)

/-- The markers are those of cells, none between them closes the cell, and none behind them opens one. -/
structure PairedCell.Paired (c : PairedCell) : Prop where
  opener : c.opener.kind = .cellOpen
  content : ∀ t ∈ c.content, t.kind ≠ .cellClose
  closer : c.closer.kind = .cellClose
  behind : ∀ t ∈ c.behind, t.kind ≠ .cellOpen

/-- What stands in front of all cells, the cells, and an unfinished cell at the end. -/
structure Parting where
  before : Row
  cells : List PairedCell
  tail : Row
  deriving DecidableEq, Repr

/-- The parts make up the row. -/
structure Parting.Parts (p : Parting) (row : Row) : Prop where
  tokens : p.before ++ p.cells.flatMap PairedCell.tokens ++ p.tail = row
  before : ∀ t ∈ p.before, t.kind ≠ .cellOpen
  cells : ∀ c ∈ p.cells, c.Paired
  tail_opens : ∀ t ∈ p.tail.head?, t.kind = .cellOpen
  tail_open : ∀ t ∈ p.tail, t.kind ≠ .cellClose

/-- A cell marker as plain text; other tokens stay. -/
def markerAsText (t : Token) : Token := if t.kind = .cellOpen ∨ t.kind = .cellClose then t.literal else t

/-- The tokens of a cell that are printed. -/
def PairedCell.line (c : PairedCell) : Row := (c.content.filter fun t => !t.isAlignment).map markerAsText

namespace Parting

/-- The tokens outside of the cells, in their order. -/
def outside (p : Parting) : Row := p.before ++ p.cells.flatMap (·.behind) ++ p.tail

/-- The tokens other than paired markers and the alignment of cells. -/
def kept (p : Parting) : Row :=
  p.before ++ p.cells.flatMap (fun c => (c.content.filter fun t => !t.isAlignment) ++ c.behind) ++ p.tail

/-- The paired markers. -/
def markers (p : Parting) : Row := p.cells.flatMap fun c => [c.opener, c.closer]

/-- The alignment of the cells. -/
def alignment (p : Parting) : Row := p.cells.flatMap fun c => c.content.filter Token.isAlignment

/-- What the layout adds: it centres a single cell, and puts blanks between two. -/
def added (p : Parting) (width : Int) : Row :=
  match p.cells with
  | [] => []
  | [_] => [centering]
  | first :: second :: _ => [blanks (gapBetween first.line second.line width)]

end Parting

/-! ### One way to part a row -/

/-- Two lists that are cut in front of the first element of a kind are cut in the same place. -/
private theorem append_inj_of_first {kind : TokenKind} {u v w x : Row} (hu : ∀ t ∈ u, t.kind ≠ kind)
    (hw : ∀ t ∈ w, t.kind ≠ kind) (hv : ∀ t ∈ v.head?, t.kind = kind) (hx : ∀ t ∈ x.head?, t.kind = kind)
    (h : u ++ v = w ++ x) : u = w ∧ v = x := by
  rcases List.append_eq_append_iff.1 h with ⟨more, rfl, hmore⟩ | ⟨more, rfl, hmore⟩
  · cases more with
    | nil => exact ⟨(List.append_nil u).symm, hmore⟩
    | cons t more =>
      have ht : t.kind = kind := hv t (by rw [hmore]; rfl)
      exact absurd ht (hw t (by simp))
  · cases more with
    | nil => exact ⟨List.append_nil w, hmore.symm⟩
    | cons t more =>
      have ht : t.kind = kind := hx t (by rw [hmore]; rfl)
      exact absurd ht (hu t (by simp))

section Unique

variable {cells others : List PairedCell} {tail tail' : Row}

private theorem head?_cells_tail (hcells : ∀ c ∈ cells, c.Paired) (htail : ∀ t ∈ tail.head?, t.kind = .cellOpen) :
    ∀ t ∈ (cells.flatMap PairedCell.tokens ++ tail).head?, t.kind = .cellOpen := by
  cases cells with
  | nil => exact htail
  | cons c cells =>
    intro t ht
    obtain rfl : c.opener = t := by simpa [PairedCell.tokens] using ht
    exact (hcells c (List.mem_cons_self ..)).opener

private theorem cells_unique (hcells : ∀ c ∈ cells, c.Paired) (hothers : ∀ c ∈ others, c.Paired)
    (htail : ∀ t ∈ tail.head?, t.kind = .cellOpen) (htail' : ∀ t ∈ tail'.head?, t.kind = .cellOpen)
    (hopen : ∀ t ∈ tail, t.kind ≠ .cellClose) (hopen' : ∀ t ∈ tail', t.kind ≠ .cellClose)
    (h : cells.flatMap PairedCell.tokens ++ tail = others.flatMap PairedCell.tokens ++ tail') :
    cells = others ∧ tail = tail' := by
  induction cells generalizing others with
  | nil =>
    cases others with
    | nil => exact ⟨rfl, h⟩
    | cons d others =>
      have hclose : d.closer ∈ tail := by
        simp only [List.flatMap_nil, List.nil_append] at h
        simp [h, PairedCell.tokens]
      exact absurd (hothers d (List.mem_cons_self ..)).closer (hopen _ hclose)
  | cons c cells ih =>
    have hc := hcells c (List.mem_cons_self ..)
    have hmore : ∀ c ∈ cells, c.Paired := fun c hc => hcells c (List.mem_cons_of_mem _ hc)
    cases others with
    | nil =>
      have hclose : c.closer ∈ tail' := by
        simp only [List.flatMap_nil, List.nil_append] at h
        simp [← h, PairedCell.tokens]
      exact absurd hc.closer (hopen' _ hclose)
    | cons d others =>
      have hd := hothers d (List.mem_cons_self ..)
      have hmore' : ∀ c ∈ others, c.Paired := fun c hc => hothers c (List.mem_cons_of_mem _ hc)
      simp only [List.flatMap_cons, PairedCell.tokens, List.cons_append, List.append_assoc, List.cons.injEq] at h
      obtain ⟨hopener, h⟩ := h
      obtain ⟨hcontent, h⟩ := append_inj_of_first hc.content hd.content (by simpa using hc.closer)
        (by simpa using hd.closer) h
      rw [List.cons.injEq] at h
      obtain ⟨hcloser, h⟩ := h
      obtain ⟨hbehind, h⟩ := append_inj_of_first hc.behind hd.behind (head?_cells_tail hmore htail)
        (head?_cells_tail hmore' htail') h
      obtain ⟨rfl, rfl⟩ := ih hmore hmore' h
      obtain ⟨opener, content, closer, behind⟩ := c
      obtain ⟨opener', content', closer', behind'⟩ := d
      dsimp only at hopener hcontent hcloser hbehind
      subst hopener hcontent hcloser hbehind
      exact ⟨rfl, rfl⟩

end Unique

/-- A row is made up in one way at most. -/
theorem Parting.Parts.unique {p q : Parting} {row : Row} (hp : p.Parts row) (hq : q.Parts row) : q = p := by
  obtain ⟨before, cells, tail⟩ := p
  obtain ⟨before', cells', tail'⟩ := q
  have h := hp.tokens.trans hq.tokens.symm
  simp only [List.append_assoc] at h
  obtain ⟨rfl, h⟩ := append_inj_of_first hp.before hq.before (head?_cells_tail hp.cells hp.tail_opens)
    (head?_cells_tail hq.cells hq.tail_opens) h
  obtain ⟨rfl, rfl⟩ := cells_unique hp.cells hq.cells hp.tail_opens hq.tail_opens hp.tail_open hq.tail_open h
  rfl

/-! ### The parts that the layout finds -/

private theorem map_openerAsText {row : Row} (h : ∀ t ∈ row, t.kind ≠ .cellClose) :
    row.map openerAsText = row.map markerAsText := by
  refine List.map_congr_left fun t ht => ?_
  simp [openerAsText, markerAsText, h t ht]

private theorem closerAsText_eq {t : Token} (h : t.kind ≠ .cellOpen) : closerAsText t = markerAsText t := by
  simp [closerAsText, markerAsText, h]

/-- What a row is where its first closing marker is found. -/
theorem append_of_dropWhile {row after : Row} {close : Token}
    (h : row.dropWhile (·.kind ≠ .cellClose) = close :: after) :
    close.kind = .cellClose ∧ row = row.takeWhile (·.kind ≠ .cellClose) ++ close :: after := by
  have hhead := List.head?_dropWhile_not (fun u : Token => decide (u.kind ≠ .cellClose)) row
  rw [h] at hhead
  refine ⟨by simpa using hhead, ?_⟩
  rw [← h, List.takeWhile_append_dropWhile]

/-- The layout finds the parts of a row. -/
theorem exists_parts (row : Row) : ∃ p : Parting, p.Parts row ∧
    splitCells row = ⟨p.cells.map fun c => c.content.map markerAsText, p.outside.map markerAsText⟩ := by
  fun_induction splitCells row with
  | case1 => exact ⟨⟨[], [], []⟩, ⟨rfl, by simp, by simp, by simp, by simp⟩, rfl⟩
  | case2 t row ht close after hafter rest ih =>
    obtain ⟨hclose, hrow⟩ := append_of_dropWhile hafter
    have hcontent : ∀ u ∈ row.takeWhile (·.kind ≠ .cellClose), u.kind ≠ .cellClose := fun u hu => by
      simpa using List.mem_takeWhile_imp hu
    -- what stood in front of the first cell behind this one is what follows this one
    obtain ⟨p, hp, hsplit⟩ := ih
    refine ⟨⟨[], ⟨t, row.takeWhile (·.kind ≠ .cellClose), close, p.before⟩ :: p.cells, p.tail⟩,
      ⟨?_, ?_, ?_, ?_, ?_⟩, ?_⟩
    · conv_rhs => rw [hrow, ← hp.tokens]
      simp [PairedCell.tokens]
    · simp
    · intro c hc
      rcases List.mem_cons.1 hc with rfl | hc
      · exact ⟨ht, hcontent, hclose, hp.before⟩
      · exact hp.cells c hc
    · exact hp.tail_opens
    · exact hp.tail_open
    · simp only [rest, hsplit, Parting.outside, List.map_cons, List.nil_append, List.flatMap_cons]
      rw [map_openerAsText hcontent, List.append_assoc]
  | case3 t row ht hafter =>
    have hnone : ∀ u ∈ row, u.kind ≠ .cellClose := by simpa [List.dropWhile_eq_nil_iff] using hafter
    refine ⟨⟨[], [], t :: row⟩, ⟨by simp, by simp, by simp, by simpa using ht, ?_⟩, ?_⟩
    · simpa [ht] using hnone
    · simp [map_openerAsText hnone, Parting.outside, markerAsText, ht]
  | case4 t row ht rest ih =>
    obtain ⟨p, hp, hsplit⟩ := ih
    refine ⟨{ p with before := t :: p.before }, ⟨?_, ?_, hp.cells, hp.tail_opens, hp.tail_open⟩, ?_⟩
    · simp [← hp.tokens]
    · simpa [ht] using hp.before
    · simp [rest, hsplit, closerAsText_eq ht, Parting.outside]

private theorem dropAlignment_map (row : Row) :
    dropAlignment (row.map markerAsText) = (row.filter fun t => !t.isAlignment).map markerAsText := by
  rw [dropAlignment, List.filter_map]
  congr 1
  refine List.filter_congr fun t _ => ?_
  cases hkind : t.kind <;> simp [markerAsText, Token.isAlignment, hkind]

private theorem markerAsText_idem (t : Token) : markerAsText (markerAsText t) = markerAsText t := by
  cases hkind : t.kind <;> simp [markerAsText, hkind]

/-! ### The layout of the parts -/

section Layout

variable {row : Row} {p : Parting}
  (hsplit : splitCells row = ⟨p.cells.map fun c => c.content.map markerAsText, p.outside.map markerAsText⟩)
  (width : Int)

include hsplit

private theorem arrange_of_cells_nil (hcells : p.cells = []) : arrange row width = row := by
  rw [arrange, hsplit, hcells]
  rfl

private theorem arrange_of_cell {c : PairedCell} (hcells : p.cells = [c]) :
    arrange row width = centering :: (c.line ++ p.outside.map markerAsText) := by
  rw [arrange, hsplit, hcells]
  simp only [List.map_cons, List.map_nil, dropAlignment_map, PairedCell.line]

private theorem arrange_of_cells {c d : PairedCell} {more : List PairedCell} (hcells : p.cells = c :: d :: more) :
    arrange row width =
      c.line ++ blanks (gapBetween c.line d.line width) :: (d.line ++ p.outside.map markerAsText) := by
  rw [arrange, hsplit, hcells]
  simp only [List.map_cons, dropAlignment_map, PairedCell.line]

end Layout

/-- The marks of the cells, their alignment and what is kept are all of the row. -/
private theorem Parting.Parts.perm {row : Row} {p : Parting} (h : p.Parts row) :
    row.Perm (p.kept ++ (p.markers ++ p.alignment)) := by
  have hcells : ∀ (t : Token) (cells : List PairedCell),
      (cells.flatMap PairedCell.tokens).count t =
        (cells.flatMap fun c => (c.content.filter fun t => !t.isAlignment) ++ c.behind).count t +
          ((cells.flatMap fun c => [c.opener, c.closer]).count t +
            (cells.flatMap fun c => c.content.filter Token.isAlignment).count t) := by
    intro t cells
    induction cells with
    | nil => rfl
    | cons c cells ih =>
      have hcontent := (List.filter_append_perm Token.isAlignment c.content).count_eq t
      simp only [List.flatMap_cons, List.count_append, PairedCell.tokens, List.count_cons, List.count_nil]
        at ih hcontent ⊢
      omega
  rw [List.perm_iff_count]
  intro t
  have := hcells t p.cells
  simp only [← h.tokens, Parting.kept, Parting.markers, Parting.alignment, List.count_append]
  omega

section Survival

variable {row : Row} {p : Parting} (h : p.Parts row)
  (hsplit : splitCells row = ⟨p.cells.map fun c => c.content.map markerAsText, p.outside.map markerAsText⟩)
  (width : Int)

include h hsplit

/-- With two cells at most, everything that is kept is printed. -/
private theorem arrange_perm (hcells : p.cells.length ≤ 2) :
    ((arrange row width).map markerAsText).Perm (p.added width ++ p.kept.map markerAsText) := by
  have hline : ∀ c : PairedCell, c.line.map markerAsText = c.line := fun c => by
    simp [PairedCell.line, markerAsText_idem, Function.comp_def]
  have houtside : (p.outside.map markerAsText).map markerAsText = p.outside.map markerAsText := by
    simp [markerAsText_idem, Function.comp_def]
  match hlist : p.cells with
  | [] =>
    rw [arrange_of_cells_nil hsplit width hlist, ← h.tokens]
    simp [Parting.added, Parting.kept, hlist]
  | [c] =>
    rw [arrange_of_cell hsplit width hlist, List.map_cons, List.map_append, hline, houtside, List.perm_iff_count]
    intro t
    simp only [Parting.added, Parting.kept, Parting.outside, hlist, PairedCell.line, List.flatMap_cons,
      List.flatMap_nil, List.map_append, List.count_append, List.count_cons, List.count_nil, List.append_nil,
      show markerAsText centering = centering from rfl]
    omega
  | [c, d] =>
    rw [arrange_of_cells hsplit width hlist, List.map_append, List.map_cons, List.map_append, hline, hline, houtside,
      List.perm_iff_count]
    intro t
    simp only [Parting.added, Parting.kept, Parting.outside, hlist, PairedCell.line, List.flatMap_cons,
      List.flatMap_nil, List.map_append, List.count_append, List.count_cons, List.count_nil, List.append_nil,
      show ∀ n, markerAsText (blanks n) = blanks n from fun _ => rfl]
    omega
  | c :: d :: e :: more => simp [hlist] at hcells

end Survival

/-- What the layout makes of the parts of a row, which are its only ones. -/
theorem arrange_parts (row : Row) :
    ∃ p : Parting, p.Parts row ∧ (∀ q : Parting, q.Parts row → q = p) ∧
      row.Perm (p.kept ++ (p.markers ++ p.alignment)) ∧
      ∀ width,
        (p.cells = [] → arrange row width = row) ∧
        (∀ c, p.cells = [c] → arrange row width = centering :: (c.line ++ p.outside.map markerAsText)) ∧
        (∀ c d more, p.cells = c :: d :: more →
          arrange row width =
            c.line ++ blanks (gapBetween c.line d.line width) :: (d.line ++ p.outside.map markerAsText)) ∧
        (p.cells.length ≤ 2 →
          ((arrange row width).map markerAsText).Perm (p.added width ++ p.kept.map markerAsText)) := by
  obtain ⟨p, hp, hsplit⟩ := exists_parts row
  refine ⟨p, hp, fun q hq => hp.unique hq, hp.perm, fun width => ⟨?_, ?_, ?_, ?_⟩⟩
  · exact arrange_of_cells_nil hsplit width
  · intro c hcells
    exact arrange_of_cell hsplit width hcells
  · intro c d more hcells
    exact arrange_of_cells hsplit width hcells
  · exact arrange_perm hp hsplit width

/-! An opening marker inside of a cell and a closing marker behind it are text. -/

example : arrange [⟨.cellOpen, "<td>".toList⟩, ⟨.text, ['a']⟩, ⟨.cellOpen, "<TD>".toList⟩,
      ⟨.cellClose, "</td>".toList⟩, ⟨.cellClose, "</TD>".toList⟩] 32 =
    [centering, ⟨.text, ['a']⟩, ⟨.text, "<TD>".toList⟩, ⟨.text, "</TD>".toList⟩] := by
  cbv

end ThermalPress
