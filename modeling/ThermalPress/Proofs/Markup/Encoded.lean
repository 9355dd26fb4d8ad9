import ThermalPress.Proofs.Markup.Untagged
import ThermalPress.Proofs.Text.CodePages

/-!
# Documents that are bytes

A document may come as bytes in the printer's code page.  It is read as text, cut into tokens and written again, but
where no tag is recognised nothing of this shows: the bytes are sent as they came, with line ends of two bytes
(`documentBytes_of_complete`).  Nothing but line ends is touched, so what is sent has the same other bytes in the same
order (`documentBytes_encoded`).
-/

namespace ThermalPress

/-- Line ends of two bytes become single line feeds; other carriage returns stay. -/
def pairsAsFeeds : Bytes → Bytes
  | [] => []
  | 0x0D :: 0x0A :: rest => 0x0A :: pairsAsFeeds rest
  | b :: rest => b :: pairsAsFeeds rest

/-- Line feeds become line ends of two bytes. -/
def feedsAsPairs (bytes : Bytes) : Bytes := bytes.flatMap fun b => if b = 0x0A then [0x0D, 0x0A] else [b]

/-- Neither a carriage return nor a line feed. -/
def isWithinLine (b : UInt8) : Bool := b ≠ 0x0D && b ≠ 0x0A

/-! ### Bytes within lines -/

theorem filter_pairsAsFeeds (bytes : Bytes) :
    (pairsAsFeeds bytes).filter isWithinLine = bytes.filter isWithinLine := by
  fun_induction pairsAsFeeds bytes with
  | case1 => rfl
  | case2 rest ih =>
    have hreturn : ¬ isWithinLine 0x0D := by decide
    have hfeed : ¬ isWithinLine 0x0A := by decide
    rw [List.filter_cons_of_neg hfeed, List.filter_cons_of_neg hreturn, List.filter_cons_of_neg hfeed, ih]
  | case3 b rest hpair ih => rw [List.filter_cons, List.filter_cons, ih]

theorem filter_feedsAsPairs (bytes : Bytes) :
    (feedsAsPairs bytes).filter isWithinLine = bytes.filter isWithinLine := by
  induction bytes with
  | nil => rfl
  | cons b bytes ih =>
    rw [feedsAsPairs, List.flatMap_cons, List.filter_append, ← feedsAsPairs, ih]
    split
    · next hfeed =>
      subst hfeed
      rfl
    · rw [← List.filter_append, List.singleton_append]

/-! ### Line ends as bytes and as characters -/

section Complete

variable {settings : Settings} {page : CodePage}

theorem decodeByte_eq_return_iff (hpage : page.Complete) {b : UInt8} : page.decodeByte b = '\r' ↔ b = 0x0D := by
  have hreturn : page.decodeByte 0x0D = '\r' := rfl
  rw [← hreturn, page.decodeByte_inj hpage]

theorem decodeByte_eq_feed_iff (hpage : page.Complete) {b : UInt8} : page.decodeByte b = '\n' ↔ b = 0x0A := by
  show page.decodeByte b = page.decodeByte 0x0A ↔ b = 0x0A
  exact page.decodeByte_inj hpage

theorem unifyLineEnds_decode (hpage : page.Complete) (bytes : Bytes) :
    unifyLineEnds (page.decode bytes) = page.decode (pairsAsFeeds bytes) := by
  fun_induction pairsAsFeeds bytes with
  | case1 => rfl
  | case2 rest ih => exact congrArg ('\n' :: ·) ih
  | case3 b rest hpair ih =>
    have hcons : unifyLineEnds (page.decodeByte b :: page.decode rest) =
        page.decodeByte b :: unifyLineEnds (page.decode rest) := by
      rw [unifyLineEnds]
      -- a pair of characters is a pair of bytes
      intro after hreturn hfeed
      obtain ⟨c, others, rfl, hc, -⟩ := List.map_eq_cons_iff.1 hfeed
      rw [decodeByte_eq_feed_iff hpage] at hc
      rw [decodeByte_eq_return_iff hpage] at hreturn
      subst hc hreturn
      exact hpair others rfl rfl
    exact hcons.trans (congrArg _ ih)

theorem encode_splitLineEnds_decode (hpage : page.Complete) (bytes : Bytes) :
    page.encode (Qr.splitLineEnds (page.decode bytes)) = feedsAsPairs bytes := by
  induction bytes with
  | nil => rfl
  | cons b bytes ih =>
    have hbyte : page.encode (Qr.splitLineEnds [page.decodeByte b]) = feedsAsPairs [b] := by
      by_cases hfeed : b = 0x0A
      · subst hfeed
        rfl
      · have hchar : page.decodeByte b ≠ '\n' := (decodeByte_eq_feed_iff hpage).not.2 hfeed
        simp [Qr.splitLineEnds, feedsAsPairs, hchar, hfeed, CodePage.encode, page.encodeChar_decodeByte hpage]
    have hsplit : Qr.splitLineEnds (page.decode (b :: bytes)) =
        Qr.splitLineEnds [page.decodeByte b] ++ Qr.splitLineEnds (page.decode bytes) :=
      Qr.splitLineEnds_append [page.decodeByte b] (page.decode bytes)
    have hpairs : feedsAsPairs (b :: bytes) = feedsAsPairs [b] ++ feedsAsPairs bytes :=
      @List.flatMap_append _ _ [b] bytes _
    rw [hsplit, hpairs, CodePage.encode_append, hbyte, ih]

/-! ### Bytes of a document -/

theorem characters_of_isPage [Codecs] {name : String} (hpage : Codecs.IsPage name page) (bytes : Bytes) :
    (Document.encoded bytes).characters name = .ok (page.decode bytes) := by
  cases bytes with
  | nil => rfl
  | cons b bytes => exact hpage.decode (b :: bytes)

theorem documentBytes_of_complete [Codecs] {bytes : Bytes} (hpage : page.Complete)
    (hencoding : Codecs.IsPage settings.encoding page) (h : ¬ HoldsTag (page.decode bytes)) :
    documentBytes settings (.encoded bytes) = .ok (feedsAsPairs (pairsAsFeeds bytes)) := by
  rw [documentBytes_of_not_holdsTag hencoding (characters_of_isPage hencoding bytes) h, unifyLineEnds_decode hpage,
    encode_splitLineEnds_decode hpage]

end Complete

/-- Bytes that hold no tag are sent as they came, but for their line ends, which all become ones of two bytes. -/
theorem documentBytes_encoded [Codecs] {settings : Settings} {bytes : Bytes}
    (hencoding : Codecs.IsPage settings.encoding .ibm437)
    (h : ¬ HoldsTag (CodePage.ibm437.decode bytes)) :
    ∃ sent, documentBytes settings (.encoded bytes) = .ok sent ∧ sent = feedsAsPairs (pairsAsFeeds bytes) ∧
      sent.filter isWithinLine = bytes.filter isWithinLine := by
  refine ⟨_, documentBytes_of_complete CodePage.complete_ibm437 hencoding h, rfl, ?_⟩
  rw [filter_feedsAsPairs, filter_pairsAsFeeds]

/-- No tag is recognised in a text if none is where an angle opens. -/
theorem not_holdsTag_of_tails {s : List Char}
    (h : ∀ rest ∈ s.tails, rest.head? = some '<' → (takeTag? rest.tail).isNone = true) : ¬ HoldsTag s := by
  rintro ⟨inner, kind, hspelling, before, after, rfl⟩
  have htails : angled inner ++ after ∈ (before ++ angled inner ++ after).tails :=
    (List.mem_tails _ _).2 ⟨before, by rw [List.append_assoc]⟩
  have hnone := h _ htails rfl
  have hsome := hspelling.takeTag? after
  simp [angled, hsome] at hnone

open scoped Libraries in
/-- Line ends of every kind, a command of the printer, angles that open no tag, and bytes beyond ASCII. -/
theorem documentBytes_encoded_controls :
    let bytes : Bytes := [0x0A, 0x0D, 0x0D, 0x0A, 0x1B, 0x45, 0x01, 0x3C, 0x62, 0x0D, 0x3E, 0x00, 0x80, 0xFF, 0x0D]
    let sent : Bytes :=
      [0x0D, 0x0A, 0x0D, 0x0D, 0x0A, 0x1B, 0x45, 0x01, 0x3C, 0x62, 0x0D, 0x3E, 0x00, 0x80, 0xFF, 0x0D]
    ¬ HoldsTag (CodePage.ibm437.decode bytes) ∧ documentBytes {} (.encoded bytes) = .ok sent := by
  intro bytes sent
  have huntagged : ¬ HoldsTag (CodePage.ibm437.decode bytes) := not_holdsTag_of_tails (by decide)
  obtain ⟨found, hfound, hpairs, -⟩ := @documentBytes_encoded _ {} bytes isPage_cp437 huntagged
  have hsent : feedsAsPairs (pairsAsFeeds bytes) = sent := by decide
  rw [hfound, hpairs, hsent]
  exact ⟨huntagged, rfl⟩

end ThermalPress
