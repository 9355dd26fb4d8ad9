import Mathlib.Data.List.Basic
import ThermalPress.Markup.Compile
import ThermalPress.Proofs.Markup.Cells
import ThermalPress.Proofs.Markup.Rows
import ThermalPress.Proofs.Results
import ThermalPress.Proofs.Text.Encodings

/-!
# The bytes of a document, token by token

A compiled document is made in passes: rows are cut and trimmed, cells laid out, tokens turned into bytes, rows
joined by line ends.  Where no row pairs an opening cell marker with a closing one the passes cancel out
(`documentBytes_eq_flatMap_sent`): the printer is sent the bytes of one token after another, and only the run of
`<tr>` in front is left out.

`rowsImage_eq_ok_iff` says of all rows when they have bytes at all, and which.
-/

namespace ThermalPress

section Codecs

variable [Codecs]

/-! ### Tokens that all have bytes -/

/-- The bytes of a token; none for a token that has no bytes in the encoding. -/
def Token.bytes (encoding : String) (t : Token) : Bytes := (t.image encoding).toOption.getD []

theorem Token.image_eq_ok_bytes {encoding : String} {t : Token} {b : Bytes} (h : t.image encoding = .ok b) :
    t.image encoding = .ok (t.bytes encoding) := by
  simp [Token.bytes, h, Except.toOption]

private theorem rowImage_of_forall {encoding : String} {row : Row}
    (h : ∀ t ∈ row, ∃ b, t.image encoding = .ok b) :
    rowImage encoding row = .ok (row.flatMap (Token.bytes encoding)) := by
  have hrow : row.mapM (Token.image encoding) = .ok (row.map (Token.bytes encoding)) := by
    apply mapM_eq_ok_of_forall
    intro t ht
    obtain ⟨b, hb⟩ := h t ht
    exact Token.image_eq_ok_bytes hb
  rw [rowImage, hrow, List.flatMap_def]
  rfl

private theorem exists_image_of_rowImage {encoding : String} {row : Row} {b : Bytes}
    (h : rowImage encoding row = .ok b) : ∀ t ∈ row, ∃ b, t.image encoding = .ok b := by
  obtain ⟨images, himages, -⟩ := map_eq_ok_iff.1 h
  exact exists_ok_of_mapM himages

/-- Rows have bytes exactly if each of their tokens has, and then the bytes of the tokens of each row, with line
ends between the rows. -/
theorem rowsImage_eq_ok_iff {encoding : String} {rows : List Row} {b : Bytes} :
    rowsImage encoding rows = .ok b ↔
      (∀ row ∈ rows, ∀ t ∈ row, ∃ b, t.image encoding = .ok b) ∧
        b = Command.lineEnd.intercalate (rows.map (List.flatMap (Token.bytes encoding))) := by
  constructor
  · intro h
    obtain ⟨images, hrows, hb⟩ := map_eq_ok_iff.1 h
    have himages : ∀ row ∈ rows, ∀ t ∈ row, ∃ b, t.image encoding = .ok b := by
      intro row hrow
      obtain ⟨b, hb⟩ := exists_ok_of_mapM hrows row hrow
      exact exists_image_of_rowImage hb
    refine ⟨himages, ?_⟩
    rw [mapM_eq_ok_of_forall fun row hrow => rowImage_of_forall (himages row hrow), Except.ok.injEq] at hrows
    rw [← hb, hrows]
  · rintro ⟨himages, rfl⟩
    rw [rowsImage, mapM_eq_ok_of_forall fun row hrow => rowImage_of_forall (himages row hrow)]
    rfl

/-! ### Compiling a document -/

theorem laidOutRows_of_read {settings : Settings} {document : Document} {characters : List Char}
    {tokens : List Token} (hcharacters : document.characters settings.encoding = .ok characters)
    (hread : readTokens characters = .ok tokens) :
    laidOutRows settings document = .ok ((rowsOf tokens).map fun row => arrange row settings.lineWidth) := by
  simp [laidOutRows, documentRows, hcharacters, hread]

theorem laidOutRows_text {settings : Settings} {document : List Char} {tokens : List Token}
    (h : readTokens document = .ok tokens) :
    laidOutRows settings (.text document) =
      .ok ((rowsOf tokens).map fun row => arrange row settings.lineWidth) := laidOutRows_of_read rfl h

/-- A document compiles exactly if it has rows and those have bytes; the style is that of the tokens of its rows. -/
theorem compileFrom_eq_ok_iff {settings : Settings} {style : Style} {document : Document} {compiled : Compiled} :
    compileFrom settings style document = .ok compiled ↔
      ∃ rows, laidOutRows settings document = .ok rows ∧
        rowsImage settings.encoding rows = .ok compiled.body ∧ compiled.style = styleAfter style rows := by
  obtain ⟨body, after⟩ := compiled
  simp only [compileFrom, bind_eq_ok_iff, liftEncoding_eq_ok_iff, pure_eq_ok_iff, Compiled.mk.injEq]
  constructor
  · rintro ⟨rows, hrows, b, hb, rfl, rfl⟩
    exact ⟨rows, hrows, hb, rfl⟩
  · rintro ⟨rows, hrows, hb, rfl⟩
    exact ⟨rows, hrows, body, hb, rfl, rfl⟩

/-! ### One token after another -/

/-- What the printer is sent for a token, where `encode` gives the bytes of a text. -/
def Token.sent (encode : List Char → Bytes) (t : Token) : Bytes :=
  match t.kind with
  | .newline | .rowStart | .lineBreak => [0x0D, 0x0A]
  | .rowEnd | .alignClose => []
  | .align .left => [0x1B, 0x61, 0x00]
  | .align .center => [0x1B, 0x61, 0x01]
  | .align .right => [0x1B, 0x61, 0x02]
  | .bold true => [0x1B, 0x45, 0x01]
  | .bold false => [0x1B, 0x45, 0x00]
  | .double true => [0x1D, 0x21, 0x11]
  | .double false => [0x1D, 0x21, 0x00]
  | .text | .cellOpen | .cellClose => encode t.raw

private theorem image_eq_ok_sent {encoding : String} {encode : List Char → Bytes}
    (hencode : ∀ s, Codecs.encode encoding s = .ok (encode s)) (t : Token) :
    t.image encoding = .ok (t.sent encode) := by
  obtain ⟨kind, raw⟩ := t
  unfold Token.image Token.sent
  cases kind with
  | text | cellOpen | cellClose => exact hencode raw
  | newline | rowStart | lineBreak | rowEnd | alignClose => rfl
  | align side => cases side <;> rfl
  | bold on | double on => cases on <;> rfl

/-- In an encoding that takes every text, all rows have bytes. -/
theorem rowsImage_of_encode {encoding : String} {encode : List Char → Bytes}
    (hencode : ∀ s, Codecs.encode encoding s = .ok (encode s)) (rows : List Row) :
    rowsImage encoding rows =
      .ok (Command.lineEnd.intercalate (rows.map (List.flatMap (Token.sent encode)))) := by
  have hbytes : Token.bytes encoding = Token.sent encode := by
    funext t
    simp [Token.bytes, image_eq_ok_sent hencode t, Except.toOption]
  rw [rowsImage_eq_ok_iff, hbytes]
  exact ⟨fun row _ t _ => ⟨_, image_eq_ok_sent hencode t⟩, rfl⟩

/-- Rows as they are cut are sent one token after another. -/
theorem rowsImage_cutRows {encoding : String} {encode : List Char → Bytes}
    (hencode : ∀ s, Codecs.encode encoding s = .ok (encode s)) (tokens : List Token) :
    rowsImage encoding (cutRows tokens) = .ok (tokens.flatMap (Token.sent encode)) := by
  rw [rowsImage_of_encode hencode, intercalate_cutRows]
  · intro t ht
    simp only [Token.beginsRow, Bool.or_eq_true, decide_eq_true_eq] at ht
    rcases ht with ht | ht <;> simp [Token.sent, ht, Command.lineEnd]
  · intro t ht
    simp [Token.sent, ht]

/-- Where no row holds a pair of cell markers, a document is sent one token after another.  Only the run of `<tr>`
that it opens with is left out. -/
theorem documentBytes_eq_flatMap_sent {settings : Settings} {document : List Char} {tokens : List Token}
    {encode : List Char → Bytes} (hread : readTokens document = .ok tokens)
    (hcells : ∀ row ∈ rowsOf tokens, row.Pairwise fun t u => ¬ (t.kind = .cellOpen ∧ u.kind = .cellClose))
    (hencode : ∀ s, Codecs.encode settings.encoding s = .ok (encode s)) :
    documentBytes settings (.text document) =
      .ok ((tokens.dropWhile fun t => t.kind = .rowStart).flatMap (Token.sent encode)) := by
  have hlaid : laidOutRows settings (.text document) = .ok (rowsOf tokens) := by
    rw [laidOutRows_text hread, List.map_congr_left fun row hrow => arrange_of_unpaired (hcells row hrow) _,
      List.map_id']
  have hbytes : Token.bytes settings.encoding = Token.sent encode := by
    funext t
    simp [Token.bytes, image_eq_ok_sent hencode t, Except.toOption]
  have himage : rowsImage settings.encoding (rowsOf tokens) =
      .ok (Command.lineEnd.intercalate ((rowsOf tokens).map (List.flatMap (Token.sent encode)))) := by
    rw [rowsImage_eq_ok_iff, hbytes]
    exact ⟨fun row _ t _ => ⟨_, image_eq_ok_sent hencode t⟩, rfl⟩
  have hbegin : ∀ t : Token, t.beginsRow = true → t.sent encode = Command.lineEnd := by
    intro t ht
    simp only [Token.beginsRow, Bool.or_eq_true, decide_eq_true_eq] at ht
    rcases ht with ht | ht <;> simp [Token.sent, ht, Command.lineEnd]
  have hend : ∀ t : Token, t.kind = .rowEnd → t.sent encode = [] := by
    intro t ht
    simp [Token.sent, ht]
  rw [rowsOf_eq_cutRows, intercalate_cutRows hbegin hend] at himage
  rw [← rowsOf_eq_cutRows] at himage
  have hcompiled : compileFrom settings .plain (.text document) =
      .ok ⟨(tokens.dropWhile fun t => t.kind = .rowStart).flatMap (Token.sent encode),
        styleAfter .plain (rowsOf tokens)⟩ := compileFrom_eq_ok_iff.2 ⟨_, hlaid, himage, rfl⟩
  rw [documentBytes, hcompiled]
  rfl

end Codecs

open scoped Libraries in
/-- Rows that the document opens with, a closing marker of a row in between, cell markers that stand in two rows,
and a character that the printer cannot show. -/
theorem documentBytes_stray_markers :
    documentBytes {} (.text "<tr><TR></tr>a<td>b\r\n</td><b>é€<br />".toList) =
      .ok [0x61, 0x3C, 0x74, 0x64, 0x3E, 0x62, 0x0D, 0x0A, 0x3C, 0x2F, 0x74, 0x64, 0x3E,
        0x1B, 0x45, 0x01, 0x82, 0x3F, 0x0D, 0x0A] := by
  have hread : readTokens "<tr><TR></tr>a<td>b\r\n</td><b>é€<br />".toList =
      .ok [⟨.rowStart, "<tr>".toList⟩, ⟨.rowStart, "<TR>".toList⟩, ⟨.rowEnd, "</tr>".toList⟩, ⟨.text, ['a']⟩,
        ⟨.cellOpen, "<td>".toList⟩, ⟨.text, ['b']⟩, ⟨.newline, ['\n']⟩, ⟨.cellClose, "</td>".toList⟩,
        ⟨.bold true, "<b>".toList⟩, ⟨.text, ['é', '€']⟩, ⟨.lineBreak, "<br />".toList⟩] := by cbv
  rw [documentBytes_eq_flatMap_sent hread (by decide) isPage_cp437.encode]
  decide

end ThermalPress
