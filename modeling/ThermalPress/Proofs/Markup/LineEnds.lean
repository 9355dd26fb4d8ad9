import ThermalPress.Proofs.Markup.Lines
import ThermalPress.Proofs.Markup.Literals

/-!
# The line ends of a document

A printer of a code page is sent a line feed for each row but the first and for each line break that is printed, and
never one without its carriage return (`documentBytes_lineEnds`).  Text holds no line feed, whatever the code page makes
of it (`holdsLineEnds_sent`), so all that is left is to count: the rows, by the tokens that begin one, and the line
breaks, which the layout moves and, with the cells that it drops, leaves out (`lineBreaks_arrange`).
-/

namespace ThermalPress

/-! ### Line ends in bytes -/

/-- The bytes hold that many line feeds, each of them right behind a carriage return. -/
structure HoldsLineEnds (bytes : Bytes) (count : Nat) : Prop where
  count_eq : bytes.count 0x0A = count
  returned : ∀ before after, bytes = before ++ 0x0A :: after → [0x0D] <:+ before

theorem holdsLineEnds_of_not_mem {bytes : Bytes} (h : 0x0A ∉ bytes) : HoldsLineEnds bytes 0 where
  count_eq := List.count_eq_zero.2 h
  returned := by
    rintro before after rfl
    simp at h

theorem holdsLineEnds_lineEnd : HoldsLineEnds Command.lineEnd 1 where
  count_eq := rfl
  returned := by
    intro before after h
    match before with
    | [] => simp [Command.lineEnd] at h
    | [b] =>
      obtain ⟨rfl, -⟩ := List.cons.inj h
      exact List.suffix_rfl
    | _ :: _ :: _ => simp [Command.lineEnd] at h

theorem HoldsLineEnds.append {bytes others : Bytes} {m n : Nat} (h : HoldsLineEnds bytes m)
    (hothers : HoldsLineEnds others n) : HoldsLineEnds (bytes ++ others) (m + n) where
  count_eq := by rw [List.count_append, h.count_eq, hothers.count_eq]
  returned := by
    intro before after hsplit
    rcases List.append_eq_append_iff.1 hsplit with ⟨middle, rfl, hmiddle⟩ | ⟨middle, rfl, hmiddle⟩
    · exact (hothers.returned middle after hmiddle).trans (List.suffix_append ..)
    · cases middle with
      | nil =>
        -- the others would begin with a line feed
        have hreturn := hothers.returned [] after hmiddle.symm
        simp at hreturn
      | cons b middle =>
        obtain ⟨rfl, -⟩ := List.cons.inj hmiddle
        exact h.returned before middle rfl

/-! ### Line breaks among tokens -/

/-- The number of line breaks. -/
def lineBreaks (tokens : List Token) : Nat := tokens.countP fun t => t.kind = .lineBreak

theorem lineBreaks_cons (t : Token) (tokens : List Token) :
    lineBreaks (t :: tokens) = lineBreaks [t] + lineBreaks tokens := by
  simp [lineBreaks, List.countP_cons, Nat.add_comm]

@[simp] theorem lineBreaks_append (tokens others : List Token) :
    lineBreaks (tokens ++ others) = lineBreaks tokens + lineBreaks others := List.countP_append

/-- Tokens that are no line breaks may be left out. -/
private theorem lineBreaks_filter {p : Token → Bool} (hp : ∀ t : Token, t.kind = .lineBreak → p t = true)
    (tokens : List Token) : lineBreaks (tokens.filter p) = lineBreaks tokens := by
  rw [lineBreaks, List.countP_filter]
  refine List.countP_congr fun t _ => ?_
  simpa using hp t

/-- Rows hold all line breaks. -/
theorem lineBreaks_rowsOf (tokens : List Token) : lineBreaks (rowsOf tokens).flatten = lineBreaks tokens := by
  rw [flatten_rowsOf]
  refine lineBreaks_filter (fun t ht => ?_) tokens
  simp [Token.beginsRow, ht]

private theorem lineBreaks_map_markerAsText (row : Row) : lineBreaks (row.map markerAsText) = lineBreaks row := by
  rw [lineBreaks, List.countP_map]
  refine List.countP_congr fun t _ => ?_
  cases hkind : t.kind <;> simp [markerAsText, hkind]

private theorem lineBreaks_cells {cells : List PairedCell} (h : ∀ c ∈ cells, c.Paired) :
    lineBreaks (cells.flatMap PairedCell.tokens) =
      lineBreaks (cells.map fun c => c.content.map markerAsText).flatten + lineBreaks (cells.flatMap (·.behind)) := by
  induction cells with
  | nil => rfl
  | cons c cells ih =>
    have hc := h c (List.mem_cons_self ..)
    have hrest := ih fun c hc => h c (List.mem_cons_of_mem _ hc)
    have hopener : lineBreaks [c.opener] = 0 := by simp [lineBreaks, hc.opener]
    have hcloser : lineBreaks [c.closer] = 0 := by simp [lineBreaks, hc.closer]
    have htokens : lineBreaks c.tokens = lineBreaks c.content + lineBreaks c.behind := by
      rw [PairedCell.tokens, lineBreaks_cons, lineBreaks_append, lineBreaks_cons c.closer, hopener, hcloser]
      omega
    simp only [List.flatMap_cons, List.map_cons, List.flatten_cons, lineBreaks_append, lineBreaks_map_markerAsText,
      htokens, hrest]
    omega

/-- Cutting a row into cells loses no line break. -/
theorem lineBreaks_splitCells (row : Row) :
    lineBreaks ((splitCells row).cells.flatten ++ (splitCells row).outside) = lineBreaks row := by
  obtain ⟨p, hp, hsplit⟩ := exists_parts row
  rw [hsplit, ← hp.tokens, Parting.outside]
  simp only [lineBreaks_append, lineBreaks_map_markerAsText, lineBreaks_cells hp.cells]
  omega

/-- The tokens of the two cells that the layout of a row keeps, and those outside of all cells. -/
def shownTokens (row : Row) : List Token := ((splitCells row).cells.take 2).flatten ++ (splitCells row).outside

/-- A line break is in a cell that is dropped, or it is not. -/
theorem lineBreaks_shown (row : Row) :
    lineBreaks row = lineBreaks (shownTokens row) + lineBreaks (droppedTokens row) := by
  have hcells : lineBreaks (splitCells row).cells.flatten =
      lineBreaks ((splitCells row).cells.take 2).flatten + lineBreaks (droppedTokens row) := by
    rw [droppedTokens, ← lineBreaks_append, ← List.flatten_append, List.take_append_drop]
  rw [← lineBreaks_splitCells, shownTokens, lineBreaks_append, lineBreaks_append, hcells]
  omega

private theorem lineBreaks_dropAlignment (cell : Row) : lineBreaks (dropAlignment cell) = lineBreaks cell := by
  refine lineBreaks_filter (fun t ht => ?_) cell
  simp [Token.isAlignment, ht]

/-- The layout of a row adds no line break, and loses none but those in the cells that it drops. -/
theorem lineBreaks_arrange (row : Row) (width : Int) :
    lineBreaks (arrange row width) = lineBreaks (shownTokens row) := by
  unfold arrange
  split
  · next outside hsplit =>
    rw [← lineBreaks_splitCells, shownTokens, hsplit]
    rfl
  · next cell outside hsplit =>
    have hcentering : lineBreaks [centering] = 0 := rfl
    rw [lineBreaks_cons, hcentering, lineBreaks_append, lineBreaks_dropAlignment, shownTokens, hsplit]
    simp
  · next first second more outside hsplit =>
    have hblanks : ∀ count, lineBreaks [blanks count] = 0 := fun _ => rfl
    rw [lineBreaks_append, lineBreaks_cons, hblanks, lineBreaks_append, lineBreaks_dropAlignment,
      lineBreaks_dropAlignment, shownTokens, hsplit]
    simp

theorem lineBreaks_laidOut (rows : List Row) (width : Int) :
    lineBreaks (rows.map fun row => arrange row width).flatten = lineBreaks (rows.flatMap shownTokens) := by
  induction rows with
  | nil => rfl
  | cons row rows ih =>
    rw [List.map_cons, List.flatten_cons, List.flatMap_cons, lineBreaks_append, lineBreaks_append,
      lineBreaks_arrange, ih]

theorem lineBreaks_flatten (rows : List Row) :
    lineBreaks rows.flatten = lineBreaks (rows.flatMap shownTokens) + lineBreaks (rows.flatMap droppedTokens) := by
  induction rows with
  | nil => rfl
  | cons row rows ih =>
    simp only [List.flatten_cons, List.flatMap_cons, lineBreaks_append, lineBreaks_shown row, ih]
    omega

/-! ### Tokens within a line -/

/-- A token that begins no row and, unless it is a line break, has no line end among its characters. -/
def Token.WithinLine (t : Token) : Prop := t.beginsRow = false ∧ (t.kind ≠ .lineBreak → '\n' ∉ t.raw)

/-- No tag but a line break holds a line end. -/
theorem TagSpelling.lineFeed_not_mem {inner : List Char} {kind : TokenKind} (h : TagSpelling inner (.ok kind))
    (hkind : kind ≠ .lineBreak) : '\n' ∉ inner := by
  rcases (takeTag?_spans h.not_mem.2 (h.takeTag? [])).2.2 with hbreak | hfeed
  · cases hbreak
    exact absurd rfl hkind
  · exact hfeed

theorem withinLine_of_mem_row {document : List Char} {tokens : List Token} {row : Row} {t : Token}
    (hread : readTokens document = .ok tokens) (hrow : row ∈ rowsOf tokens) (ht : t ∈ row) : t.WithinLine := by
  obtain ⟨hmem, hbegins, -⟩ := mem_of_mem_rowsOf hrow ht
  refine ⟨hbegins, fun hkind => ?_⟩
  rcases (readsAs_of_scan hread).readFrom t hmem with ⟨inner, hraw, hspelling⟩ | rfl | ⟨-, -, hfeed⟩
  · have hinner := hspelling.lineFeed_not_mem hkind
    rw [hraw, mem_angled]
    simpa using hinner
  · simp [lineFeedToken, Token.beginsRow] at hbegins
  · exact hfeed

private theorem Token.WithinLine.markerAsText {t : Token} (h : t.WithinLine) : (markerAsText t).WithinLine := by
  unfold ThermalPress.markerAsText
  split
  · next hmarker =>
    have hbreak : t.kind ≠ .lineBreak := by rcases hmarker with hkind | hkind <;> simp [hkind]
    exact ⟨rfl, fun _ => h.2 hbreak⟩
  · exact h

/-- The layout puts no line end into a row. -/
theorem withinLine_arrange {row : Row} {width : Int} (h : ∀ t ∈ row, t.WithinLine) :
    ∀ t ∈ arrange row width, t.WithinLine := by
  intro t ht
  by_cases hcells : (splitCells row).cells = []
  · rw [arrange_of_unpaired ((cells_eq_nil_iff row).1 hcells)] at ht
    exact h t ht
  · rcases mem_arrange hcells ht with ⟨u, hu, rfl⟩ | rfl | ⟨count, rfl⟩
    · exact (h u hu).markerAsText
    · exact ⟨rfl, fun _ => by decide⟩
    · exact ⟨rfl, fun _ => by simp [blanks]⟩

/-! ### The bytes of tokens and rows -/

section Page

variable (page : CodePage)

/-- Within a line, only a line break is sent as a line end. -/
theorem holdsLineEnds_sent {t : Token} (h : t.WithinLine) :
    HoldsLineEnds (t.sent page.encode) (lineBreaks [t]) := by
  obtain ⟨hbegins, hraw⟩ := h
  by_cases hbreak : t.kind = .lineBreak
  · have hone : lineBreaks [t] = 1 := by simp [lineBreaks, hbreak]
    have hsent : t.sent page.encode = Command.lineEnd := by simp [Token.sent, Command.lineEnd, hbreak]
    rw [hone, hsent]
    exact holdsLineEnds_lineEnd
  · have hnone : lineBreaks [t] = 0 := by simp [lineBreaks, hbreak]
    have htext : 0x0A ∉ page.encode t.raw := page.lineFeed_not_mem_encode (hraw hbreak)
    rw [hnone]
    refine holdsLineEnds_of_not_mem ?_
    cases hkind : t.kind with
    | text | cellOpen | cellClose => simpa [Token.sent, hkind] using htext
    | newline | rowStart => simp [Token.beginsRow, hkind] at hbegins
    | lineBreak => exact absurd hkind hbreak
    | rowEnd | alignClose => simp [Token.sent, hkind]
    | align side => cases side <;> simp [Token.sent, hkind]
    | bold on | double on => cases on <;> simp [Token.sent, hkind]

theorem holdsLineEnds_row {row : Row} (h : ∀ t ∈ row, t.WithinLine) :
    HoldsLineEnds (row.flatMap (Token.sent page.encode)) (lineBreaks row) := by
  induction row with
  | nil => exact holdsLineEnds_of_not_mem (by simp)
  | cons t row ih =>
    have ht := holdsLineEnds_sent page (h t (List.mem_cons_self ..))
    have hrest := ih fun u hu => h u (List.mem_cons_of_mem _ hu)
    rw [List.flatMap_cons, lineBreaks_cons]
    exact ht.append hrest

/-- Between any two rows there is one more line end. -/
theorem holdsLineEnds_rows {rows : List Row} (hrows : rows ≠ []) (h : ∀ row ∈ rows, ∀ t ∈ row, t.WithinLine) :
    HoldsLineEnds (Command.lineEnd.intercalate (rows.map (List.flatMap (Token.sent page.encode))))
      (rows.length - 1 + lineBreaks rows.flatten) := by
  induction rows with
  | nil => exact absurd rfl hrows
  | cons row rows ih =>
    have hrow := holdsLineEnds_row page (h row (List.mem_cons_self ..))
    by_cases hlast : rows = []
    · subst hlast
      simpa using hrow
    · have hrest := ih hlast fun r hr => h r (List.mem_cons_of_mem _ hr)
      have hlength : 0 < rows.length := List.length_pos_iff.2 hlast
      have hcount : (row :: rows).length - 1 + lineBreaks (row :: rows).flatten =
          lineBreaks row + 1 + (rows.length - 1 + lineBreaks rows.flatten) := by
        rw [List.length_cons, List.flatten_cons, lineBreaks_append]
        omega
      rw [hcount, List.map_cons, List.intercalate_cons_of_ne_nil (by simpa using hlast)]
      exact (hrow.append holdsLineEnds_lineEnd).append hrest

end Page

/-- A document that can be read has bytes in every code page.  They hold a line feed for each token that begins a row,
but for the `<tr>` that the document opens with, and for each line break, but for those in the cells that the layout of
their row drops.  Each line feed stands right behind a carriage return. -/
theorem documentBytes_lineEnds [Codecs] {settings : Settings} {page : CodePage} {document : Document} {characters : List Char}
    {tokens : List Token} (hpage : Codecs.IsPage settings.encoding page)
    (hcharacters : document.characters settings.encoding = .ok characters)
    (hread : readTokens characters = .ok tokens) :
    ∃ body, documentBytes settings document = .ok body ∧
      (∀ before after, body = before ++ 0x0A :: after → [0x0D] <:+ before) ∧
      openingRows tokens ≤ tokens.countP Token.beginsRow ∧
      body.count 0x0A =
        tokens.countP Token.beginsRow - openingRows tokens + lineBreaks ((rowsOf tokens).flatMap shownTokens) ∧
      lineBreaks tokens =
        lineBreaks ((rowsOf tokens).flatMap shownTokens) + lineBreaks ((rowsOf tokens).flatMap droppedTokens) := by
  have hbytes := documentBytes_of_rows (laidOutRows_of_read hcharacters hread)
  rw [rowsImage_of_encode hpage.encode] at hbytes
  have hlines : ∀ row ∈ (rowsOf tokens).map fun row => arrange row settings.lineWidth, ∀ t ∈ row, t.WithinLine := by
    intro line hline
    obtain ⟨row, hrow, rfl⟩ := List.mem_map.1 hline
    exact withinLine_arrange fun t ht => withinLine_of_mem_row hread hrow ht
  have hends := holdsLineEnds_rows page (by simpa using rowsOf_ne_nil tokens) hlines
  rw [List.length_map, lineBreaks_laidOut] at hends
  have hrows : 0 < (rowsOf tokens).length := List.length_pos_iff.2 (rowsOf_ne_nil tokens)
  have hlength := length_rowsOf tokens
  refine ⟨_, hbytes, hends.returned, by omega, ?_, ?_⟩
  · rw [hends.count_eq]
    omega
  · rw [← lineBreaks_rowsOf, lineBreaks_flatten]

open scoped Libraries in
/-- One of the three `<tr>` and line ends is what the document opens with, and one of the two line breaks is in a third
cell; the other one, which holds a line end itself, is one line feed. -/
theorem documentBytes_lineEnds_columns :
    ∃ body, documentBytes {} (.text "<tr><td>a<br\n></td><td>b</td><td><br>c</td>\r\n</tr><TR>d".toList) = .ok body ∧
      body.count 0x0A = 3 ∧ ∀ before after, body = before ++ 0x0A :: after → [0x0D] <:+ before := by
  have hread : readTokens "<tr><td>a<br\n></td><td>b</td><td><br>c</td>\r\n</tr><TR>d".toList =
      .ok [⟨.rowStart, "<tr>".toList⟩, ⟨.cellOpen, "<td>".toList⟩, ⟨.text, ['a']⟩, ⟨.lineBreak, "<br\n>".toList⟩,
        ⟨.cellClose, "</td>".toList⟩, ⟨.cellOpen, "<td>".toList⟩, ⟨.text, ['b']⟩, ⟨.cellClose, "</td>".toList⟩,
        ⟨.cellOpen, "<td>".toList⟩, ⟨.lineBreak, "<br>".toList⟩, ⟨.text, ['c']⟩, ⟨.cellClose, "</td>".toList⟩,
        ⟨.newline, ['\n']⟩, ⟨.rowEnd, "</tr>".toList⟩, ⟨.rowStart, "<TR>".toList⟩, ⟨.text, ['d']⟩] := by cbv
  obtain ⟨body, hbody, hreturned, -, hcount, -⟩ :=
    @documentBytes_lineEnds _ {} .ibm437 (.text _) _ _ isPage_cp437 rfl hread
  refine ⟨body, hbody, ?_, hreturned⟩
  rw [hcount]
  decide +kernel

end ThermalPress
