import ThermalPress.Proofs.Markup.Tags

/-!
# How tags are spelled

The spellings of the tags are said without the reader (`TagSpelling`): the names in capital or small letters, with or
without a slash, and the letters of a line break with blanks and a slash behind them.  The reader takes these and no
others (`TagSpelling.takeTag?`, `spelling_of_takeTag?`), but for one: the name `right` with an i of Turkish is recognised
as a tag and then names nothing.
-/

namespace ThermalPress

/-! ### Letters -/

/-- The small letter that a character passes for. -/
def plainLetter (c : Char) : Char := if isTurkishI c then 'i' else c.toLower

private theorem toLower_of_isTurkishI {c : Char} (h : isTurkishI c = true) : c.toLower = c := by
  simp only [isTurkishI, Bool.or_eq_true, beq_iff_eq] at h
  rcases h with rfl | rfl <;> decide

private theorem passesFor_plainLetter (c : Char) : passesFor (plainLetter c) c = true := by
  unfold passesFor plainLetter
  split <;> simp_all

private theorem plainLetter_of_passesFor {letter c : Char} (hletter : isTurkishI letter = false)
    (h : passesFor letter c = true) : plainLetter c = letter := by
  simp only [passesFor, Bool.or_eq_true, Bool.and_eq_true, beq_iff_eq] at h
  unfold plainLetter
  rcases h with rfl | ⟨rfl, hc⟩
  · cases hc : isTurkishI c with
    | false => rfl
    | true =>
      rw [toLower_of_isTurkishI hc, hc] at hletter
      cases hletter
  · rw [if_pos hc]

private theorem takeWord?_append (found rest : List Char) :
    takeWord? (found.map plainLetter) (found ++ rest) = some (found, rest) := by
  induction found with
  | nil => rfl
  | cons c found ih => simp [takeWord?, passesFor_plainLetter, ih]

/-- A word is found in letters that pass for its own. -/
private theorem map_plainLetter_of_takeWord? {word s found rest : List Char}
    (hword : ∀ letter ∈ word, isTurkishI letter = false) (h : takeWord? word s = some (found, rest)) :
    s = found ++ rest ∧ found.map plainLetter = word := by
  induction word generalizing s found with
  | nil =>
    simp only [takeWord?, Option.some.injEq, Prod.mk.injEq] at h
    obtain ⟨rfl, rfl⟩ := h
    exact ⟨rfl, rfl⟩
  | cons letter word ih =>
    cases s with
    | nil => cases h
    | cons c s =>
      simp only [takeWord?, Option.ite_none_right_eq_some, Option.map_eq_some_iff, Prod.mk.injEq] at h
      obtain ⟨hpasses, ⟨found, rest⟩, htake, rfl, rfl⟩ := h
      obtain ⟨rfl, rfl⟩ := ih (fun other hother => hword other (List.mem_cons_of_mem _ hother)) htake
      rw [List.map_cons, plainLetter_of_passesFor (hword letter (List.mem_cons_self ..)) hpasses]
      exact ⟨rfl, rfl⟩

/-- Letters without an i of Turkish pass for their own small letters. -/
private theorem map_toLower_iff {word found : List Char} (hword : ∀ letter ∈ word, isTurkishI letter = false) :
    found.map Char.toLower = word ↔ found.map plainLetter = word ∧ found.any isTurkishI = false := by
  have hplain : found.any isTurkishI = false → found.map plainLetter = found.map Char.toLower := by
    intro h
    refine List.map_congr_left fun c hc => ?_
    rw [plainLetter, if_neg (List.any_eq_false.1 h c hc)]
  constructor
  · rintro rfl
    have hnone : found.any isTurkishI = false := by
      rw [List.any_eq_false]
      intro c hc hturkish
      have hlower := hword c.toLower (List.mem_map_of_mem hc)
      rw [toLower_of_isTurkishI hturkish, hturkish] at hlower
      cases hlower
    exact ⟨hplain hnone, hnone⟩
  · rintro ⟨rfl, hnone⟩
    exact (hplain hnone).symm

/-- Letters that pass for others than an `i` hold no i of Turkish. -/
private theorem any_isTurkishI_eq_false {w : List Char} (h : 'i' ∉ w.map plainLetter) : w.any isTurkishI = false := by
  rw [List.any_eq_false]
  intro c hc hturkish
  have hplain : plainLetter c ∈ w.map plainLetter := List.mem_map_of_mem hc
  rw [plainLetter, if_pos hturkish] at hplain
  exact h hplain

private theorem spelling_plain (name : TagName) : ∀ letter ∈ name.spelling, isTurkishI letter = false := by
  cases name <;> simp [TagName.spelling, isTurkishI]

private theorem lineBreak_plain : ∀ letter ∈ ['b', 'r'], isTurkishI letter = false := by
  simp [isTurkishI]

/-! ### Spellings -/

/-- The slash of a tag that has one. -/
def slash (there : Bool) : List Char := if there then ['/'] else []

/-- What stands between the angles of a tag, and what the tag is read as. -/
inductive TagSpelling : List Char → Except UnknownTag TokenKind → Prop
  | named (closing : Bool) (name : TagName) {w : List Char} : w.map Char.toLower = name.spelling →
    TagSpelling (slash closing ++ w) (.ok (name.kind closing))
  | lineBreak (slashed : Bool) {w blanks : List Char} : w.map Char.toLower = ['b', 'r'] →
    (∀ c ∈ blanks, isBlank c = true) → TagSpelling (w ++ blanks ++ slash slashed) (.ok .lineBreak)
  /-- The name `right` with an i of Turkish is recognised, but it is none of the names. -/
  | unknown (closing : Bool) {r i g h t : Char} : [r, g, h, t].map Char.toLower = ['r', 'g', 'h', 't'] →
    isTurkishI i = true → TagSpelling (slash closing ++ [r, i, g, h, t]) (.error ⟨closing, [r, i, g, h, t]⟩)

/-- The characters of a tag. -/
def angled (inner : List Char) : List Char := '<' :: (inner ++ ['>'])

theorem mem_angled {c : Char} {inner : List Char} : c ∈ angled inner ↔ c = '<' ∨ c ∈ inner ∨ c = '>' := by
  simp [angled]

private theorem not_mem_of_map_toLower {w word : List Char} (h : w.map Char.toLower = word) {c : Char}
    (hword : c.toLower ∉ word) : c ∉ w := by
  subst h
  exact fun hmem => hword (List.mem_map_of_mem hmem)

private theorem not_mem_unknown {closing : Bool} {r i g h t : Char}
    (hletters : [r, g, h, t].map Char.toLower = ['r', 'g', 'h', 't']) (hi : isTurkishI i = true) {c : Char}
    (hc : c ≠ '/' ∧ isTurkishI c = false ∧ c.toLower ∉ ['r', 'g', 'h', 't']) :
    c ∉ slash closing ++ [r, i, g, h, t] := by
  have hslash : c ∉ slash closing := by cases closing <;> simp [slash, hc.1]
  have hne : c ≠ i := by
    rintro rfl
    rw [hc.2.1] at hi
    cases hi
  have hw := not_mem_of_map_toLower hletters hc.2.2
  simp only [List.mem_cons, List.not_mem_nil, or_false, not_or] at hw
  simp [hslash, hne, hw]

/-- A tag that names nothing stands on one line. -/
theorem TagSpelling.unknown_not_mem {inner : List Char} {e : UnknownTag} (h : TagSpelling inner (.error e)) :
    '\r' ∉ angled inner ∧ '\n' ∉ angled inner := by
  cases h with
  | @unknown closing r i g h t hletters hi =>
    have hreturn : '\r' ∉ slash closing ++ [r, i, g, h, t] := not_mem_unknown hletters hi (by decide)
    have hfeed : '\n' ∉ slash closing ++ [r, i, g, h, t] := not_mem_unknown hletters hi (by decide)
    rw [mem_angled, mem_angled]
    exact ⟨by simp only [hreturn]; decide, by simp only [hfeed]; decide⟩

/-- No angle stands between the angles of a tag. -/
theorem TagSpelling.not_mem {inner : List Char} {kind : Except UnknownTag TokenKind} (h : TagSpelling inner kind) :
    '<' ∉ inner ∧ '>' ∉ inner := by
  have hslash : ∀ there, '<' ∉ slash there ∧ '>' ∉ slash there := by decide
  cases h with
  | @named closing name w hname =>
    have hopen : '<' ∉ w := not_mem_of_map_toLower hname (not_mem_spelling name).1
    have hclose : '>' ∉ w := not_mem_of_map_toLower hname (not_mem_spelling name).2.1
    simp [hslash closing, hopen, hclose]
  | @lineBreak slashed w blanks hletters hblanks =>
    have hw : '<' ∉ w ∧ '>' ∉ w :=
      ⟨not_mem_of_map_toLower hletters (by decide), not_mem_of_map_toLower hletters (by decide)⟩
    have hopen : '<' ∉ blanks := fun hmem => absurd (hblanks _ hmem) (by decide)
    have hclose : '>' ∉ blanks := fun hmem => absurd (hblanks _ hmem) (by decide)
    simp [hslash slashed, hw, hopen, hclose]
  | unknown closing hletters hi =>
    exact ⟨not_mem_unknown hletters hi (by decide), not_mem_unknown hletters hi (by decide)⟩

/-- A letter that passes for another one than `i` is that letter. -/
private theorem toLower_of_plainLetter {letter c : Char} (h : plainLetter c = letter) (hletter : letter ≠ 'i') :
    isTurkishI c = false ∧ c.toLower = letter := by
  unfold plainLetter at h
  split at h
  · exact absurd h.symm hletter
  · next hc => exact ⟨by simpa using hc, h⟩

/-- Letters that pass for a name spell it, or one of them is an i of Turkish in the name `right`. -/
private theorem tagSpelling_of_plain (closing : Bool) {name : TagName} {w : List Char}
    (h : w.map plainLetter = name.spelling) :
    TagSpelling (slash closing ++ w) (if w.any isTurkishI then .error ⟨closing, w⟩ else .ok (name.kind closing)) := by
  cases hany : w.any isTurkishI with
  | false => exact .named closing name ((map_toLower_iff (spelling_plain name)).2 ⟨h, hany⟩)
  | true =>
    have hright : name = .right := by
      by_contra hname
      have hmem : 'i' ∉ name.spelling := by
        revert hname
        cases name <;> decide
      rw [any_isTurkishI_eq_false (h ▸ hmem)] at hany
      cases hany
    subst hright
    simp only [TagName.spelling, List.map_eq_cons_iff, List.map_eq_nil_iff] at h
    obtain ⟨r, _, rfl, hr, i, _, rfl, -, g, _, rfl, hg, h, _, rfl, hh, t, _, rfl, ht, rfl⟩ := h
    obtain ⟨hr', hr⟩ := toLower_of_plainLetter hr (by decide)
    obtain ⟨hg', hg⟩ := toLower_of_plainLetter hg (by decide)
    obtain ⟨hh', hh⟩ := toLower_of_plainLetter hh (by decide)
    obtain ⟨ht', ht⟩ := toLower_of_plainLetter ht (by decide)
    have hi : isTurkishI i = true := by simpa [hr', hg', hh', ht'] using hany
    exact .unknown closing (by simp [hr, hg, hh, ht]) hi

/-! ### What the reader takes -/

/-- What stands in front of the first `>` is the same on both sides. -/
theorem eq_of_append_close {u w v x : List Char} (hu : '>' ∉ u) (hw : '>' ∉ w) (h : u ++ '>' :: v = w ++ '>' :: x) :
    u = w ∧ v = x := by
  have hfront := congrArg (List.takeWhile (· ≠ '>')) h
  have hstop : ∀ {s : List Char} (rest : List Char), '>' ∉ s → (s ++ '>' :: rest).takeWhile (· ≠ '>') = s := by
    intro s rest hs
    have hpass : ∀ c ∈ s, decide (c ≠ '>') = true := fun c hc => decide_eq_true (ne_of_mem_of_not_mem hc hs)
    rw [List.takeWhile_append_of_pos hpass]
    simp
  rw [hstop v hu, hstop x hw] at hfront
  subst hfront
  simpa using h

section Named

variable {closing : Bool} {w rest : List Char}

private theorem takeNamed?_of_plain {name : TagName} (h : w.map plainLetter = name.spelling) :
    takeNamed? closing (w ++ '>' :: rest) name =
      some ⟨if w.any isTurkishI then .error ⟨closing, w⟩ else .ok (name.kind closing), angled (slash closing ++ w),
        rest⟩ := by
  rw [takeNamed?, ← h, takeWord?_append]
  rfl

private theorem plain_of_takeNamed? {name : TagName} {m : TagMatch} (hw : '>' ∉ w)
    (h : takeNamed? closing (w ++ '>' :: rest) name = some m) : w.map plainLetter = name.spelling := by
  unfold takeNamed? at h
  split at h
  · next found behind htake =>
    obtain ⟨heq, hplain⟩ := map_plainLetter_of_takeWord? (spelling_plain name) htake
    have hfound : '>' ∉ found := by
      intro hmem
      have hclose : plainLetter '>' ∈ found.map plainLetter := List.mem_map_of_mem hmem
      rw [hplain] at hclose
      exact (not_mem_spelling name).2.1 hclose
    rw [(eq_of_append_close hw hfound heq).1, hplain]
  · cases h

private theorem findNamed_of_plain (closing : Bool) (rest : List Char) {name : TagName} (hw : '>' ∉ w)
    (h : w.map plainLetter = name.spelling) :
    TagName.all.findSome? (takeNamed? closing (w ++ '>' :: rest)) =
      some ⟨if w.any isTurkishI then .error ⟨closing, w⟩ else .ok (name.kind closing), angled (slash closing ++ w),
        rest⟩ := by
  have hall : ∀ name : TagName, name ∈ TagName.all := by
    intro name
    cases name <;> decide
  have hinj : ∀ other : TagName, other.spelling = name.spelling → other = name := by
    intro other
    cases other <;> cases name <;> decide
  cases hfind : TagName.all.findSome? (takeNamed? closing (w ++ '>' :: rest)) with
  | none =>
    have hnone := List.findSome?_eq_none_iff.1 hfind name (hall name)
    rw [takeNamed?_of_plain h] at hnone
    cases hnone
  | some m =>
    obtain ⟨other, -, hother⟩ := List.exists_of_findSome?_eq_some hfind
    rw [← hinj other ((plain_of_takeNamed? hw hother).symm.trans h), ← hother]
    exact takeNamed?_of_plain (plain_of_takeNamed? hw hother)

end Named

/-! A line break. -/

section Break

variable {inner rest : List Char}

private theorem takeBreak?_of_spelling {w blanks : List Char} (slashed : Bool)
    (hinner : '>' ∉ w ++ blanks ++ slash slashed) (hletters : w.map Char.toLower = ['b', 'r'])
    (hblanks : ∀ c ∈ blanks, isBlank c = true) :
    takeBreak? (w ++ blanks ++ slash slashed ++ '>' :: rest) =
      some ⟨.ok .lineBreak, angled (w ++ blanks ++ slash slashed), rest⟩ := by
  have hplain := ((map_toLower_iff lineBreak_plain).1 hletters).1
  have hbehind : (blanks ++ slash slashed).dropWhile isBlank = slash slashed := by
    rw [List.dropWhile_append_of_pos hblanks]
    cases slashed <;> rfl
  rw [takeBreak?_close_eq hinner, List.append_assoc, ← hplain, takeWord?_append, Option.bind_some]
  simp only [hbehind]
  cases slashed <;> rfl

private theorem spelling_of_takeBreak? {m : TagMatch} (hinner : '>' ∉ inner)
    (h : takeBreak? (inner ++ '>' :: rest) = some m) :
    m = ⟨.ok .lineBreak, angled inner, rest⟩ ∧ TagSpelling inner (.ok .lineBreak) := by
  rw [takeBreak?_close_eq hinner, Option.bind_eq_some_iff] at h
  obtain ⟨⟨found, behind⟩, htake, h⟩ := h
  simp only [Option.ite_none_right_eq_some, Option.some.injEq] at h
  obtain ⟨hbehind, rfl⟩ := h
  refine ⟨rfl, ?_⟩
  obtain ⟨rfl, hplain⟩ := map_plainLetter_of_takeWord? lineBreak_plain htake
  have hletters : found.map Char.toLower = ['b', 'r'] :=
    (map_toLower_iff lineBreak_plain).2 ⟨hplain, any_isTurkishI_eq_false (hplain ▸ by decide)⟩
  obtain ⟨slashed, hslashed⟩ : ∃ slashed, behind.dropWhile isBlank = slash slashed := by
    rcases hbehind with h | h
    · exact ⟨false, h⟩
    · exact ⟨true, h⟩
  have hblanks : ∀ c ∈ behind.takeWhile isBlank, isBlank c = true := fun c hc => List.mem_takeWhile_imp hc
  have hspelling := TagSpelling.lineBreak slashed hletters hblanks
  rwa [List.append_assoc, ← hslashed, List.takeWhile_append_dropWhile] at hspelling

end Break

/-! Any tag. -/

private theorem not_mem_of_plain {name : TagName} {w : List Char} (h : w.map plainLetter = name.spelling) :
    '>' ∉ w ∧ '/' ∉ w := by
  have hspelling : '>' ∉ name.spelling ∧ '/' ∉ name.spelling := by cases name <;> decide
  rw [← h] at hspelling
  exact ⟨fun hmem => hspelling.1 (List.mem_map_of_mem hmem), fun hmem => hspelling.2 (List.mem_map_of_mem hmem)⟩

private theorem takeTag?_of_plain (closing : Bool) {name : TagName} {w : List Char}
    (h : w.map plainLetter = name.spelling) (rest : List Char) :
    takeTag? (slash closing ++ w ++ '>' :: rest) =
      some ⟨if w.any isTurkishI then .error ⟨closing, w⟩ else .ok (name.kind closing), angled (slash closing ++ w),
        rest⟩ := by
  obtain ⟨hclose, hslash⟩ := not_mem_of_plain h
  have hfind := findNamed_of_plain closing rest hclose h
  cases closing with
  | true =>
    have htake := takeTag?_slash (w ++ '>' :: rest)
    rw [hfind, Option.some_or] at htake
    exact htake
  | false =>
    have hhead : w.head? ≠ some '/' := fun heq => hslash (List.mem_of_mem_head? heq)
    have htake := takeTag?_of_head (head?_close hhead rest)
    rw [hfind, Option.some_or] at htake
    exact htake

private theorem takeTag?_of_break {w blanks : List Char} (slashed : Bool) (hletters : w.map Char.toLower = ['b', 'r'])
    (hblanks : ∀ c ∈ blanks, isBlank c = true) (rest : List Char) :
    takeTag? (w ++ blanks ++ slash slashed ++ '>' :: rest) =
      some ⟨.ok .lineBreak, angled (w ++ blanks ++ slash slashed), rest⟩ := by
  have hinner := (TagSpelling.lineBreak slashed hletters hblanks).not_mem.2
  have hplain := ((map_toLower_iff lineBreak_plain).1 hletters).1
  simp only [List.map_eq_cons_iff] at hplain
  obtain ⟨b, others, rfl, hb, r, ends, rfl, hr, -⟩ := hplain
  have hhead : (b :: r :: ends ++ blanks ++ slash slashed).head? ≠ some '/' := by
    rintro ⟨⟩
    cases hb
  -- no name begins with the letters of a line break
  have hnamed : TagName.all.findSome?
      (takeNamed? false (b :: r :: ends ++ blanks ++ slash slashed ++ '>' :: rest)) = none := by
    rw [List.findSome?_eq_none_iff]
    intro name _
    cases hname : takeNamed? false (b :: r :: ends ++ blanks ++ slash slashed ++ '>' :: rest) name with
    | none => rfl
    | some m =>
      have hspelling := plain_of_takeNamed? hinner hname
      simp only [List.cons_append, List.map_cons, hb, hr] at hspelling
      cases name <;> simp [TagName.spelling] at hspelling
  rw [takeTag?_of_head (head?_close hhead rest), hnamed, Option.none_or]
  exact takeBreak?_of_spelling slashed hinner hletters hblanks

/-- What is spelled like a tag is taken as that tag. -/
theorem TagSpelling.takeTag? {inner : List Char} {kind : Except UnknownTag TokenKind} (h : TagSpelling inner kind)
    (rest : List Char) : takeTag? (inner ++ '>' :: rest) = some ⟨kind, angled inner, rest⟩ := by
  cases h with
  | named closing name hname =>
    obtain ⟨hplain, hany⟩ := (map_toLower_iff (spelling_plain name)).1 hname
    rw [takeTag?_of_plain closing hplain rest, hany]
    rfl
  | lineBreak slashed hletters hblanks => exact takeTag?_of_break slashed hletters hblanks rest
  | @unknown closing r i g h t hletters hi =>
    obtain ⟨hplain, hnone⟩ := (map_toLower_iff (by simp [isTurkishI])).1 hletters
    have hright : [r, i, g, h, t].map plainLetter = TagName.right.spelling := by
      have hi : plainLetter i = 'i' := if_pos hi
      simp_all [TagName.spelling]
    have hany : [r, i, g, h, t].any isTurkishI = true := by simp [hi]
    rw [takeTag?_of_plain closing hright rest, hany]
    rfl

private theorem spelling_of_findNamed (closing : Bool) {w rest : List Char} {m : TagMatch} (hw : '>' ∉ w)
    (h : TagName.all.findSome? (takeNamed? closing (w ++ '>' :: rest)) = some m) :
    m.raw = angled (slash closing ++ w) ∧ m.rest = rest ∧ TagSpelling (slash closing ++ w) m.kind := by
  obtain ⟨name, -, hname⟩ := List.exists_of_findSome?_eq_some h
  have hplain := plain_of_takeNamed? hw hname
  rw [takeNamed?_of_plain hplain, Option.some.injEq] at hname
  subst hname
  exact ⟨rfl, rfl, tagSpelling_of_plain closing hplain⟩

/-- What the reader takes is spelled like a tag. -/
theorem spelling_of_takeTag? {inner rest : List Char} {m : TagMatch} (hinner : '>' ∉ inner)
    (h : takeTag? (inner ++ '>' :: rest) = some m) :
    m.raw = angled inner ∧ m.rest = rest ∧ TagSpelling inner m.kind := by
  have hbreak : takeBreak? (inner ++ '>' :: rest) = some m →
      m.raw = angled inner ∧ m.rest = rest ∧ TagSpelling inner m.kind := by
    intro h
    obtain ⟨rfl, hspelling⟩ := spelling_of_takeBreak? hinner h
    exact ⟨rfl, rfl, hspelling⟩
  by_cases hslash : inner.head? = some '/'
  · obtain ⟨w, rfl⟩ : ∃ w, inner = '/' :: w := List.head?_eq_some_iff.1 hslash
    rw [List.cons_append, takeTag?_slash] at h
    rcases Option.or_eq_some_iff.1 h with h | ⟨-, h⟩
    · exact spelling_of_findNamed true (List.not_mem_of_not_mem_cons hinner) h
    · exact hbreak h
  · rw [takeTag?_of_head (head?_close hslash rest)] at h
    rcases Option.or_eq_some_iff.1 h with h | ⟨-, h⟩
    · exact spelling_of_findNamed false hinner h
    · exact hbreak h

end ThermalPress
