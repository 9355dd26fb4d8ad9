import Mathlib.Data.List.TakeWhile
import ThermalPress.Markup.Token

/-!
# Where a tag ends

A tag goes from its `<` to the first `>`.  Whether there is one, and which, does not depend on what stands behind that
`>` (`takeTag?_close`), and without a `>` there is none (`takeTag?_eq_none`).  A tag holds no other `<`, and only a line
break can hold a line end (`takeTag?_spans`).
-/

namespace ThermalPress

/-- No letter passes for one of the characters that tags and lines begin or end with. -/
private theorem eq_of_passesFor {letter c : Char} (hc : c ∈ ['<', '>', '\n']) (h : passesFor letter c = true) :
    letter = c := by
  have hsame : c.toLower = c ∧ isTurkishI c = false := by
    simp only [List.mem_cons, List.not_mem_nil, or_false] at hc
    rcases hc with rfl | rfl | rfl <;> decide
  rw [passesFor, hsame.1, hsame.2, Bool.and_false, Bool.or_false, beq_iff_eq] at h
  exact h.symm

private theorem not_mem_of_passes {word found : List Char} {c : Char} (hc : c ∈ ['<', '>', '\n']) (hword : c ∉ word)
    (h : ∀ d ∈ found, ∃ letter ∈ word, passesFor letter d = true) : c ∉ found := by
  intro hmem
  obtain ⟨letter, hletter, hpasses⟩ := h c hmem
  exact hword (eq_of_passesFor hc hpasses ▸ hletter)

/-- The letters that were taken and what is left make up the text. -/
private theorem takeWord?_eq_some {word s found rest : List Char} (h : takeWord? word s = some (found, rest)) :
    s = found ++ rest ∧ ∀ c ∈ found, ∃ letter ∈ word, passesFor letter c = true := by
  induction word generalizing s found rest with
  | nil =>
    simp only [takeWord?, Option.some.injEq, Prod.mk.injEq] at h
    obtain ⟨rfl, rfl⟩ := h
    simp
  | cons letter word ih =>
    cases s with
    | nil => simp [takeWord?] at h
    | cons c s =>
      simp only [takeWord?, Option.ite_none_right_eq_some, Option.map_eq_some_iff, Prod.mk.injEq] at h
      obtain ⟨hpasses, ⟨found', rest'⟩, htake, rfl, rfl⟩ := h
      obtain ⟨rfl, hfound⟩ := ih htake
      refine ⟨rfl, ?_⟩
      intro d hd
      rcases List.mem_cons.1 hd with rfl | hd
      · exact ⟨letter, List.mem_cons_self .., hpasses⟩
      · obtain ⟨other, hother, hd⟩ := hfound d hd
        exact ⟨other, List.mem_cons_of_mem _ hother, hd⟩

/-- A word is not taken across a `>`. -/
private theorem takeWord?_close {word u : List Char} (hword : '>' ∉ word) (v : List Char) :
    takeWord? word (u ++ '>' :: v) = (takeWord? word u).map fun (found, rest) => (found, rest ++ '>' :: v) := by
  induction word generalizing u with
  | nil => rfl
  | cons letter word ih =>
    rw [List.mem_cons, not_or] at hword
    cases u with
    | nil =>
      have hstop : passesFor letter '>' = false := by
        rw [← Bool.not_eq_true]
        exact fun h => hword.1 (eq_of_passesFor (by simp) h).symm
      simp [takeWord?, hstop]
    | cons c u =>
      simp only [List.cons_append, takeWord?, ih hword.2]
      split
      · simp [Option.map_map, Function.comp_def]
      · rfl

theorem not_mem_spelling (name : TagName) :
    '<' ∉ name.spelling ∧ '>' ∉ name.spelling ∧ '\n' ∉ name.spelling := by
  cases name <;> decide

/-! ### Named tags -/

section Named

variable {closing : Bool} {name : TagName} {u : List Char}

private theorem takeNamed?_close (hu : '>' ∉ u) (v : List Char) : takeNamed? closing (u ++ '>' :: v) name =
    (takeNamed? closing (u ++ ['>']) name).map fun m => { m with rest := v } := by
  simp only [takeNamed?, takeWord?_close (not_mem_spelling name).2.1]
  cases htake : takeWord? name.spelling u with
  | none => rfl
  | some taken =>
    obtain ⟨found, rest⟩ := taken
    obtain ⟨rfl, -⟩ := takeWord?_eq_some htake
    cases rest with
    | nil => rfl
    | cons c rest =>
      have hc : c ≠ '>' := by
        rintro rfl
        simp at hu
      simp [hc]

private theorem takeNamed?_spans {m : TagMatch} (hu : '>' ∉ u)
    (h : takeNamed? closing (u ++ ['>']) name = some m) :
    m.raw = '<' :: ((if closing then ['/'] else []) ++ u ++ ['>']) ∧ '<' ∉ u ∧ '\n' ∉ u := by
  simp only [takeNamed?, takeWord?_close (not_mem_spelling name).2.1] at h
  cases htake : takeWord? name.spelling u with
  | none => simp [htake] at h
  | some taken =>
    obtain ⟨found, rest⟩ := taken
    obtain ⟨rfl, hfound⟩ := takeWord?_eq_some htake
    cases rest with
    | nil =>
      simp only [htake, Option.map_some, List.nil_append, Option.some.injEq] at h
      rw [← h, List.append_nil]
      exact ⟨rfl, not_mem_of_passes (by simp) (not_mem_spelling name).1 hfound,
        not_mem_of_passes (by simp) (not_mem_spelling name).2.2 hfound⟩
    | cons c rest =>
      have hc : c ≠ '>' := by
        rintro rfl
        simp at hu
      simp [htake, hc] at h

private theorem takeNamed?_eq_none (hu : '>' ∉ u) : takeNamed? closing u name = none := by
  unfold takeNamed?
  split
  · next found rest htake =>
    obtain ⟨rfl, -⟩ := takeWord?_eq_some htake
    simp at hu
  · rfl

end Named

/-! ### Line breaks -/

private theorem blanks_close (rest v : List Char) :
    (rest ++ '>' :: v).takeWhile isBlank = rest.takeWhile isBlank ∧
      (rest ++ '>' :: v).dropWhile isBlank = rest.dropWhile isBlank ++ '>' :: v := by
  have hclose : isBlank '>' = false := by decide
  induction rest with
  | nil => simp [hclose]
  | cons c rest ih => cases hc : isBlank c <;> simp [hc, ih]

section Break

variable {u : List Char}

/-- Behind the letters of a line break stand blanks, and a slash at will. -/
theorem takeBreak?_close_eq (hu : '>' ∉ u) (v : List Char) : takeBreak? (u ++ '>' :: v) =
    (takeWord? ['b', 'r'] u).bind fun (_, rest) =>
      if rest.dropWhile isBlank = [] ∨ rest.dropWhile isBlank = ['/'] then
        some ⟨.ok .lineBreak, '<' :: (u ++ ['>']), v⟩ else none := by
  rw [takeBreak?, takeWord?_close (by decide)]
  cases htake : takeWord? ['b', 'r'] u with
  | none => rfl
  | some taken =>
    obtain ⟨found, rest⟩ := taken
    obtain ⟨rfl, -⟩ := takeWord?_eq_some htake
    have hrest : rest = rest.takeWhile isBlank ++ rest.dropWhile isBlank := List.takeWhile_append_dropWhile.symm
    have hclose : '>' ∉ rest.dropWhile isBlank := fun h =>
      hu (List.mem_append_right _ ((List.dropWhile_sublist _).subset h))
    simp only [Option.map_some, Option.bind_some, blanks_close]
    generalize rest.takeWhile isBlank = blanks, rest.dropWhile isBlank = behind at hrest hclose ⊢
    subst hrest
    cases behind with
    | nil => simp
    | cons c behind =>
      simp only [List.mem_cons, not_or] at hclose
      by_cases hslash : c = '/'
      · subst hslash
        cases behind with
        | nil => simp
        | cons d behind =>
          have hd : '>' ≠ d := fun h => hclose.2 (h ▸ List.mem_cons_self ..)
          simp [hd.symm]
      · simp [Ne.symm hclose.1, hslash]

private theorem takeBreak?_close (hu : '>' ∉ u) (v : List Char) :
    takeBreak? (u ++ '>' :: v) = (takeBreak? (u ++ ['>'])).map fun m => { m with rest := v } := by
  rw [takeBreak?_close_eq hu, takeBreak?_close_eq hu]
  cases takeWord? ['b', 'r'] u with
  | none => rfl
  | some taken => simp only [Option.bind_some]; split <;> rfl

private theorem takeBreak?_spans {m : TagMatch} (hu : '>' ∉ u) (h : takeBreak? (u ++ ['>']) = some m) :
    m.raw = '<' :: (u ++ ['>']) ∧ '<' ∉ u ∧ m.kind = .ok .lineBreak := by
  rw [takeBreak?_close_eq hu, Option.bind_eq_some_iff] at h
  obtain ⟨⟨found, rest⟩, htake, h⟩ := h
  simp only [Option.ite_none_right_eq_some, Option.some.injEq] at h
  obtain ⟨hbehind, rfl⟩ := h
  refine ⟨rfl, ?_, rfl⟩
  obtain ⟨rfl, hfound⟩ := takeWord?_eq_some htake
  have hletters : '<' ∉ found := not_mem_of_passes (by simp) (by decide) hfound
  have hblanks : '<' ∉ rest.takeWhile isBlank := fun hmem =>
    absurd (List.mem_takeWhile_imp hmem) (by decide)
  have hslash : '<' ∉ rest.dropWhile isBlank := by rcases hbehind with h | h <;> rw [h] <;> decide
  have hrest : '<' ∉ rest := by
    rw [← List.takeWhile_append_dropWhile (p := isBlank) (l := rest), List.mem_append, not_or]
    exact ⟨hblanks, hslash⟩
  rw [List.mem_append, not_or]
  exact ⟨hletters, hrest⟩

private theorem takeBreak?_eq_none (hu : '>' ∉ u) : takeBreak? u = none := by
  unfold takeBreak?
  split
  · next found rest htake =>
    obtain ⟨rfl, -⟩ := takeWord?_eq_some htake
    have hclose : '>' ∉ rest.dropWhile isBlank := fun h =>
      hu (List.mem_append_right _ ((List.dropWhile_sublist _).subset h))
    dsimp only
    split
    · next heq => simp [heq] at hclose
    · next heq => simp [heq] at hclose
    · rfl
  · rfl

end Break

/-! ### Tags -/

section Tag

variable {u : List Char}

theorem takeTag?_slash (s : List Char) : takeTag? ('/' :: s) =
    (TagName.all.findSome? (takeNamed? true s)).or (takeBreak? ('/' :: s)) := rfl

theorem takeTag?_of_head {s : List Char} (hs : s.head? ≠ some '/') : takeTag? s =
    (TagName.all.findSome? (takeNamed? false s)).or (takeBreak? s) := by
  unfold takeTag?
  split
  · simp at hs
  · rfl

theorem head?_close {u : List Char} (h : u.head? ≠ some '/') (v : List Char) :
    (u ++ '>' :: v).head? ≠ some '/' := by
  cases u with
  | nil => simp
  | cons c u => simpa using h

private theorem findNamed_close {closing : Bool} (hu : '>' ∉ u) (v : List Char) :
    TagName.all.findSome? (takeNamed? closing (u ++ '>' :: v)) =
      (TagName.all.findSome? (takeNamed? closing (u ++ ['>']))).map fun m => { m with rest := v } := by
  rw [List.map_findSome?]
  congr 1
  funext name
  exact takeNamed?_close hu v

/-- What stands behind the first `>` has no part in a tag. -/
theorem takeTag?_close (hu : '>' ∉ u) (v : List Char) :
    takeTag? (u ++ '>' :: v) = (takeTag? (u ++ ['>'])).map fun m => { m with rest := v } := by
  have hbreak := takeBreak?_close hu v
  by_cases hslash : u.head? = some '/'
  · obtain ⟨w, rfl⟩ : ∃ w, u = '/' :: w := List.head?_eq_some_iff.1 hslash
    simp only [List.cons_append] at hbreak ⊢
    rw [takeTag?_slash, takeTag?_slash, findNamed_close (List.not_mem_of_not_mem_cons hu), hbreak, Option.map_or]
  · rw [takeTag?_of_head (head?_close hslash v), takeTag?_of_head (head?_close hslash []), findNamed_close hu, hbreak,
      Option.map_or]

/-- A tag is a named one, with or without a slash, or a line break. -/
private theorem takeTag?_eq_some {m : TagMatch} (h : takeTag? (u ++ ['>']) = some m) :
    (∃ closing w name, u = (if closing then ['/'] else []) ++ w ∧ takeNamed? closing (w ++ ['>']) name = some m) ∨
      takeBreak? (u ++ ['>']) = some m := by
  by_cases hslash : u.head? = some '/'
  · obtain ⟨w, rfl⟩ : ∃ w, u = '/' :: w := List.head?_eq_some_iff.1 hslash
    rw [List.cons_append, takeTag?_slash] at h
    rcases Option.or_eq_some_iff.1 h with h | ⟨-, h⟩
    · obtain ⟨name, -, hname⟩ := List.exists_of_findSome?_eq_some h
      exact .inl ⟨true, w, name, rfl, hname⟩
    · exact .inr h
  · rw [takeTag?_of_head (head?_close hslash [])] at h
    rcases Option.or_eq_some_iff.1 h with h | ⟨-, h⟩
    · obtain ⟨name, -, hname⟩ := List.exists_of_findSome?_eq_some h
      exact .inl ⟨false, u, name, rfl, hname⟩
    · exact .inr h

/-- A tag is what stands between its `<` and the first `>`; it holds no other `<`, and no line end unless it is a line
break. -/
theorem takeTag?_spans {m : TagMatch} (hu : '>' ∉ u) (h : takeTag? (u ++ ['>']) = some m) :
    m.raw = '<' :: (u ++ ['>']) ∧ '<' ∉ u ∧ (m.kind = .ok .lineBreak ∨ '\n' ∉ u) := by
  rcases takeTag?_eq_some h with ⟨closing, w, name, rfl, hnamed⟩ | hbreak
  · obtain ⟨hraw, hopen, hline⟩ := takeNamed?_spans (fun hw => hu (List.mem_append_right _ hw)) hnamed
    refine ⟨hraw, ?_, .inr ?_⟩ <;> cases closing <;> simp [hopen, hline]
  · obtain ⟨hraw, hopen, hkind⟩ := takeBreak?_spans hu hbreak
    exact ⟨hraw, hopen, .inl hkind⟩

/-- Without a `>` there is no tag. -/
theorem takeTag?_eq_none (hu : '>' ∉ u) : takeTag? u = none := by
  unfold takeTag?
  rw [takeBreak?_eq_none hu, Option.or_none]
  split
  · exact List.findSome?_eq_none_iff.2 fun name _ => takeNamed?_eq_none (List.not_mem_of_not_mem_cons hu)
  · exact List.findSome?_eq_none_iff.2 fun name _ => takeNamed?_eq_none hu

end Tag

end ThermalPress
