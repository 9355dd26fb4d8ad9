import Mathlib.Data.Bool.AllAny
import Mathlib.Data.List.Induction
import Mathlib.Data.List.TakeWhile
import ThermalPress.Proofs.Text.Casing
import ThermalPress.Proofs.Text.HexDigits

/-!
# Hexadecimal numbers as text

One number has many spellings: with blanks around it, a plus sign, the mark `0x`, zeros in front, underscores, digits of
other scripts, and letters of both cases.  Only the case of the letters goes with small letters, so reading them gives
the number as before (`read?_map_toLower`).  Among the spellings with the mark and a number of ASCII digits the case is
all that can differ, and the number gives back the spelling in small letters (`map_toLower_eq_of_marked`).
-/

namespace ThermalPress

namespace Integer

/-! ### Characters of numbers -/

/-- The characters that numbers are written with. -/
def IsNumeral (c : Char) : Prop := isBlank c = true ∨ c ∈ ['-', '+', '_'] ∨ (digit? c).isSome = true

theorem IsNumeral.isAsciiCased {c : Char} (h : IsNumeral c) : IsAsciiCased c := by
  rcases h with hblank | hsign | hdigit
  · exact isAsciiCased_of_isBlank hblank
  · have hsigns : ∀ c ∈ ['-', '+', '_'], c.toNat < 0x80 := List.all_iff_forall_prop.1 (by decide)
    exact .inl (hsigns c hsign)
  · cases hdecimal : decimalDigit? c with
    | some d => exact isAsciiCased_of_decimalDigit? hdecimal
    | none =>
      -- the other digits are ASCII letters
      have hle : c ≤ 'z' := by
        simp only [digit?, hdecimal] at hdigit
        split at hdigit
        · next hsmall => exact (by simpa using hsmall : 'a' ≤ c ∧ c ≤ 'z').2
        · split at hdigit
          · next hcapital =>
            have hcapital : 'A' ≤ c ∧ c ≤ 'Z' := by simpa using hcapital
            exact Char.le_trans hcapital.2 (by decide)
          · cases hdigit
      exact .inl (Nat.lt_of_le_of_lt (show c.toNat ≤ 'z'.toNat from hle) (by decide))

theorem IsNumeral.ne_colon {c : Char} (h : IsNumeral c) : c ≠ ':' := by
  rintro rfl
  rcases h with hblank | hsign | hdigit
  · revert hblank
    decide
  · revert hsign
    decide
  · revert hdigit
    decide

/-- A digit is looked at before what stands behind it. -/
private theorem isNumeral_of_bind {base m : Nat} {c : Char} {rest : Nat → Option Nat}
    (h : ((digit? c).bind fun v => if v < base then rest v else none) = some m) :
    IsNumeral c ∧ ∃ v, rest v = some m := by
  obtain ⟨v, hdigit, hrest⟩ := Option.bind_eq_some_iff.1 h
  split at hrest
  · exact ⟨.inr (.inr (by rw [hdigit]; rfl)), v, hrest⟩
  · cases hrest

private theorem isNumeral_of_digitsAfter? {base n m : Nat} {s : List Char} (h : digitsAfter? base n s = some m) :
    ∀ c ∈ s, IsNumeral c := by
  fun_induction digitsAfter? base n s with
  | case1 n => simp
  | case2 n d rest ih =>
    obtain ⟨hd, v, hrest⟩ := isNumeral_of_bind h
    simp only [List.forall_mem_cons]
    exact ⟨.inr (.inl (by decide)), hd, ih v hrest⟩
  | case3 n c rest hother ih =>
    obtain ⟨hc, v, hrest⟩ := isNumeral_of_bind h
    exact List.forall_mem_cons.2 ⟨hc, ih v hrest⟩

private theorem isSome_digit?_of_decimalDigit? {c : Char} {d : Nat} (h : decimalDigit? c = some d) :
    (digit? c).isSome = true := by
  simp only [digit?, h, Option.isSome_some]

/-- The mark of a hexadecimal number stands in front of its digits. -/
private theorem exists_mark (base : Nat) (s : List Char) :
    ∃ mark, s = mark ++ dropMark base s ∧ ∀ c ∈ mark, IsNumeral c := by
  unfold dropMark
  split
  · next zero x rest =>
    split
    · next hmark =>
      obtain ⟨hzero, hx⟩ : decimalDigit? zero = some 0 ∧ (x = 'x' ∨ x = 'X') := by simpa using hmark
      have hletters : ∀ x ∈ ['x', 'X'], (digit? x).isSome = true := List.all_iff_forall_prop.1 (by decide)
      have hzero : IsNumeral zero := .inr (.inr (isSome_digit?_of_decimalDigit? hzero))
      have hx : IsNumeral x := .inr (.inr (hletters x (by simpa using hx)))
      split
      · next hunderscore =>
        obtain ⟨rest, rfl⟩ := List.head?_eq_some_iff.1 (by simpa using hunderscore)
        exact ⟨[zero, x, '_'], rfl, by simpa using ⟨hzero, hx, .inr (.inl (by decide))⟩⟩
      · exact ⟨[zero, x], rfl, by simpa using ⟨hzero, hx⟩⟩
    · exact ⟨[], rfl, by simp⟩
  · exact ⟨[], rfl, by simp⟩

private theorem isNumeral_of_magnitude? {base m : Nat} {s : List Char} (h : magnitude? base s = some m) :
    ∀ c ∈ s, IsNumeral c := by
  obtain ⟨mark, hs, hmark⟩ := exists_mark base s
  unfold magnitude? at h
  generalize dropMark base s = digits at h hs
  have hdigits : ∀ c ∈ digits, IsNumeral c := by
    cases digits with
    | nil => simp
    | cons c rest =>
      obtain ⟨hc, v, hrest⟩ := isNumeral_of_bind h
      exact List.forall_mem_cons.2 ⟨hc, isNumeral_of_digitsAfter? hrest⟩
  intro c hc
  rw [hs] at hc
  rcases List.mem_append.1 hc with hc | hc
  · exact hmark c hc
  · exact hdigits c hc

theorem isBlank_of_isNumberSpace {c : Char} (h : isNumberSpace c = true) : isBlank c = true := by
  rw [isNumberSpace, Bool.and_eq_true] at h
  exact h.1

/-- Without the spaces at its ends a text has lost spaces only. -/
private theorem isNumberSpace_or_mem_trimNumber {c : Char} {s : List Char} (hc : c ∈ s) :
    isNumberSpace c = true ∨ c ∈ trimNumber s := by
  have hdrop : ∀ t : List Char, c ∈ t → isNumberSpace c = true ∨ c ∈ t.dropWhile isNumberSpace := by
    intro t ht
    rw [← @List.takeWhile_append_dropWhile _ isNumberSpace t] at ht
    exact (List.mem_append.1 ht).imp_left List.mem_takeWhile_imp
  rcases hdrop s hc with hspace | hleft
  · exact .inl hspace
  · have hright := hdrop (s.dropWhile isNumberSpace).reverse (List.mem_reverse.2 hleft)
    exact hright.imp_right List.mem_reverse.2

/-- The number of a text without spaces at its ends. -/
private def signed? (base : Nat) : List Char → Option Int
  | '-' :: rest => (magnitude? base rest).map fun m : Nat => -(m : Int)
  | '+' :: rest => (magnitude? base rest).map Int.ofNat
  | s => (magnitude? base s).map Int.ofNat

private theorem signed?_of_unsigned (base : Nat) {s : List Char} (hminus : ∀ rest, s ≠ '-' :: rest)
    (hplus : ∀ rest, s ≠ '+' :: rest) : signed? base s = (magnitude? base s).map Int.ofNat := by
  rw [signed?]
  · exact hminus
  · exact hplus

private theorem read?_eq (base : Nat) (s : List Char) : read? base s = signed? base (trimNumber s) := by
  unfold read?
  generalize trimNumber s = t
  split
  · next rest =>
    show _ = (magnitude? base rest).map _
    cases magnitude? base rest <;> rfl
  · next rest =>
    show _ = (magnitude? base rest).map _
    cases magnitude? base rest <;> rfl
  · next hminus hplus =>
    rw [signed?_of_unsigned base hminus hplus]
    cases magnitude? base t <;> rfl

/-- A text that is read as a number consists of characters of numbers. -/
theorem isNumeral_of_read? {base : Nat} {s : List Char} {n : Int} (h : read? base s = some n) :
    ∀ c ∈ s, IsNumeral c := by
  have htrim : ∀ c ∈ trimNumber s, IsNumeral c := by
    rw [read?_eq] at h
    generalize trimNumber s = t at h
    fun_cases signed? base t with
    | case1 rest =>
      obtain ⟨m, hm, -⟩ := Option.map_eq_some_iff.1 h
      exact List.forall_mem_cons.2 ⟨.inr (.inl (by decide)), isNumeral_of_magnitude? hm⟩
    | case2 rest =>
      obtain ⟨m, hm, -⟩ := Option.map_eq_some_iff.1 h
      exact List.forall_mem_cons.2 ⟨.inr (.inl (by decide)), isNumeral_of_magnitude? hm⟩
    | case3 _ hminus hplus =>
      rw [signed?_of_unsigned base hminus hplus] at h
      obtain ⟨m, hm, -⟩ := Option.map_eq_some_iff.1 h
      exact isNumeral_of_magnitude? hm
  intro c hc
  rcases isNumberSpace_or_mem_trimNumber hc with hspace | hmem
  · exact .inl (isBlank_of_isNumberSpace hspace)
  · exact htrim c hmem

/-! ### Small letters -/

theorem isNumberSpace_toLower (c : Char) : isNumberSpace c.toLower = isNumberSpace c :=
  toLower_induction (p := fun c lower => isNumberSpace lower = isNumberSpace c) (by decide) (fun _ => rfl) c

theorem decimalDigit?_toLower (c : Char) : decimalDigit? c.toLower = decimalDigit? c :=
  toLower_induction (p := fun c lower => decimalDigit? lower = decimalDigit? c) (by decide +kernel) (fun _ => rfl) c

theorem digit?_toLower (c : Char) : digit? c.toLower = digit? c :=
  toLower_induction (p := fun c lower => digit? lower = digit? c) (by decide +kernel) (fun _ => rfl) c

theorem trimNumber_map_toLower (s : List Char) :
    trimNumber (s.map Char.toLower) = (trimNumber s).map Char.toLower := by
  have hspace : isNumberSpace ∘ Char.toLower = isNumberSpace := funext isNumberSpace_toLower
  simp only [trimNumber, List.dropWhile_map, hspace, ← List.map_reverse]

private theorem digitsAfter?_cons (base n : Nat) {c : Char} (hc : c ≠ '_') (rest : List Char) :
    digitsAfter? base n (c :: rest) =
      (digit? c).bind fun v => if v < base then digitsAfter? base (n * base + v) rest else none := by
  rw [digitsAfter?]
  intro d rest heq
  exact absurd heq hc

private theorem digitsAfter?_map_toLower (base n : Nat) (s : List Char) :
    digitsAfter? base n (s.map Char.toLower) = digitsAfter? base n s := by
  fun_induction digitsAfter? base n s with
  | case1 n => rfl
  | case2 n d rest ih =>
    have hunderscore : ('_' :: d :: rest).map Char.toLower = '_' :: d.toLower :: rest.map Char.toLower := rfl
    rw [hunderscore, digitsAfter?, digit?_toLower]
    simp only [ih]
  | case3 n c rest hother ih =>
    by_cases hc : c = '_'
    · subst hc
      cases rest with
      | nil => rfl
      | cons d rest => exact absurd rfl (hother d rest rfl)
    · rw [List.map_cons, digitsAfter?_cons _ _ ((toLower_eq_iff (by decide) c).not.2 hc), digit?_toLower]
      simp only [ih]

private theorem dropMark_map_toLower (base : Nat) (s : List Char) :
    dropMark base (s.map Char.toLower) = (dropMark base s).map Char.toLower := by
  by_cases hmarked : base = 16 ∧ ∃ zero x rest, s = zero :: x :: rest
  · obtain ⟨rfl, zero, x, rest, rfl⟩ := hmarked
    have hletter : (x.toLower == 'x' || x.toLower == 'X') = (x == 'x' || x == 'X') :=
      toLower_induction (p := fun x lower => (lower == 'x' || lower == 'X') = (x == 'x' || x == 'X'))
        (by decide) (fun _ => rfl) x
    have hunderscore : ((rest.map Char.toLower).head? == some '_') = (rest.head? == some '_') := by
      cases rest with
      | nil => rfl
      | cons c rest => simp [toLower_eq_iff (k := '_') (by decide) c]
    show (if decimalDigit? zero.toLower == some 0 && (x.toLower == 'x' || x.toLower == 'X') then
        (if (rest.map Char.toLower).head? == some '_' then (rest.map Char.toLower).tail else rest.map Char.toLower)
        else zero.toLower :: x.toLower :: rest.map Char.toLower) =
      (if decimalDigit? zero == some 0 && (x == 'x' || x == 'X') then
        (if rest.head? == some '_' then rest.tail else rest) else zero :: x :: rest).map Char.toLower
    rw [decimalDigit?_toLower, hletter, hunderscore]
    split
    · split
      · exact List.map_tail.symm
      · rfl
    · rfl
  · have hunmarked : ∀ t : List Char, ¬ (base = 16 ∧ ∃ zero x rest, t = zero :: x :: rest) → dropMark base t = t := by
      intro t ht
      rw [dropMark]
      intro zero x rest hbase heq
      exact ht ⟨hbase, zero, x, rest, heq⟩
    rw [hunmarked s hmarked, hunmarked]
    rintro ⟨hbase, zero, x, rest, heq⟩
    obtain ⟨c, others, hs, -, hothers⟩ := List.map_eq_cons_iff.1 heq
    obtain ⟨y, others, rfl, -, -⟩ := List.map_eq_cons_iff.1 hothers
    exact hmarked ⟨hbase, c, y, others, hs⟩

private theorem magnitude?_map_toLower (base : Nat) (s : List Char) :
    magnitude? base (s.map Char.toLower) = magnitude? base s := by
  unfold magnitude?
  rw [dropMark_map_toLower]
  cases dropMark base s with
  | nil => rfl
  | cons c rest => simp only [List.map_cons, digit?_toLower, digitsAfter?_map_toLower]

private theorem signed?_map_toLower (base : Nat) (s : List Char) :
    signed? base (s.map Char.toLower) = signed? base s := by
  have hsame := magnitude?_map_toLower base
  fun_cases signed? base s with
  | case1 rest =>
    show (magnitude? base (rest.map Char.toLower)).map _ = (magnitude? base rest).map _
    rw [hsame]
  | case2 rest =>
    show (magnitude? base (rest.map Char.toLower)).map _ = (magnitude? base rest).map _
    rw [hsame]
  | case3 _ hminus hplus =>
    -- no small letter is a sign
    have hunsigned : ∀ sign : Char, sign.isAlpha = false → (∀ rest, s ≠ sign :: rest) →
        ∀ rest, s.map Char.toLower ≠ sign :: rest := by
      intro sign hsign hnone rest heq
      obtain ⟨c, others, hs, hc, -⟩ := List.map_eq_cons_iff.1 heq
      rw [toLower_eq_iff hsign] at hc
      exact hnone others (hc ▸ hs)
    rw [signed?_of_unsigned base (hunsigned '-' (by decide) hminus) (hunsigned '+' (by decide) hplus), hsame]

/-- A number is the same in small letters. -/
theorem read?_map_toLower (base : Nat) (s : List Char) : read? base (s.map Char.toLower) = read? base s := by
  rw [read?_eq, read?_eq, trimNumber_map_toLower, signed?_map_toLower]

/-! ### The mark and digits -/

/-- The ASCII digits of hexadecimal numbers. -/
def hexCharacters : List Char := "0123456789abcdefABCDEF".toList

/-- Whether a text is the mark and a number of ASCII digits. -/
def isMarked (width : Nat) : List Char → Bool
  | '0' :: x :: digits => (x == 'x' || x == 'X') && digits.length == width && digits.all hexCharacters.contains
  | _ => false

private theorem exists_of_isMarked {width : Nat} {s : List Char} (h : isMarked width s = true) :
    ∃ x digits, s = '0' :: x :: digits ∧ x ∈ ['x', 'X'] ∧ digits.length = width ∧
      ∀ c ∈ digits, c ∈ hexCharacters := by
  unfold isMarked at h
  split at h
  · next x digits =>
    refine ⟨x, digits, rfl, ?_⟩
    simpa [and_assoc] using h
  · cases h

private theorem digit?_of_mem : ∀ c ∈ hexCharacters,
    c ≠ '_' ∧ isNumberSpace c = false ∧ digit? c = some ((digit? c).getD 0) ∧ (digit? c).getD 0 < 16 :=
  List.all_iff_forall_prop.1 (by decide +kernel)

private theorem digitsAfter?_of_mem (n : Nat) {s : List Char} (h : ∀ c ∈ s, c ∈ hexCharacters) :
    digitsAfter? 16 n s = some (s.foldl (fun n c => n * 16 + (digit? c).getD 0) n) := by
  induction s generalizing n with
  | nil => rfl
  | cons c s ih =>
    obtain ⟨hc, hs⟩ := List.forall_mem_cons.1 h
    obtain ⟨hunderscore, -, hdigit, hlt⟩ := digit?_of_mem c hc
    rw [digitsAfter?_cons 16 n hunderscore, hdigit, Option.bind_some, if_pos hlt, ih _ hs]
    simp

private theorem magnitude?_of_mem {x : Char} (hx : x ∈ ['x', 'X']) {digits : List Char}
    (h : ∀ c ∈ digits, c ∈ hexCharacters) (hdigits : digits ≠ []) :
    magnitude? 16 ('0' :: x :: digits) = some (ofHexDigits digits) := by
  obtain ⟨c, rest, rfl⟩ := List.exists_cons_of_ne_nil hdigits
  obtain ⟨hc, hrest⟩ := List.forall_mem_cons.1 h
  obtain ⟨hunderscore, -, hdigit, hlt⟩ := digit?_of_mem c hc
  have hmark : dropMark 16 ('0' :: x :: c :: rest) = c :: rest := by
    show (if decimalDigit? '0' == some 0 && (x == 'x' || x == 'X') then
      (if some c == some '_' then rest else c :: rest) else _) = _
    have hzero : decimalDigit? '0' = some 0 := by decide
    rw [if_pos (by simpa [hzero] using hx), if_neg (by simpa using hunderscore)]
  rw [magnitude?, hmark]
  dsimp only
  rw [hdigit, Option.bind_some, if_pos hlt, digitsAfter?_of_mem _ hrest, ofHexDigits, List.foldl_cons, Nat.zero_mul,
    Nat.zero_add]

theorem trimNumber_eq_self {s : List Char} (h : ∀ c ∈ s, isNumberSpace c = false) : trimNumber s = s := by
  have hdrop : ∀ t : List Char, (∀ c ∈ t, isNumberSpace c = false) → t.dropWhile isNumberSpace = t := by
    intro t ht
    cases t with
    | nil => rfl
    | cons c t => rw [List.dropWhile_cons, ht c (List.mem_cons_self ..), if_neg Bool.false_ne_true]
  have hreverse : ∀ c ∈ s.reverse, isNumberSpace c = false := fun c hc => h c (List.mem_reverse.1 hc)
  rw [trimNumber, hdrop s h, hdrop _ hreverse, List.reverse_reverse]

theorem read?_of_mem {x : Char} (hx : x ∈ ['x', 'X']) {digits : List Char} (h : ∀ c ∈ digits, c ∈ hexCharacters)
    (hdigits : digits ≠ []) : read? 16 ('0' :: x :: digits) = some (Int.ofNat (ofHexDigits digits)) := by
  have hspace : ∀ c ∈ '0' :: x :: digits, isNumberSpace c = false := by
    simp only [List.forall_mem_cons]
    refine ⟨by decide, ?_, fun c hc => (digit?_of_mem c (h c hc)).2.1⟩
    have hletters : ∀ x ∈ ['x', 'X'], isNumberSpace x = false := List.all_iff_forall_prop.1 (by decide)
    exact hletters x hx
  rw [read?_eq, trimNumber_eq_self hspace]
  show (magnitude? 16 ('0' :: x :: digits)).map Int.ofNat = _
  rw [magnitude?_of_mem hx h hdigits]
  rfl

/-- As many digits that make one number differ in the case of letters only. -/
theorem map_toLower_eq_of_ofHexDigits {s t : List Char} (hs : ∀ c ∈ s, c ∈ hexCharacters)
    (ht : ∀ c ∈ t, c ∈ hexCharacters) (hlength : s.length = t.length) (h : ofHexDigits s = ofHexDigits t) :
    s.map Char.toLower = t.map Char.toLower := by
  have hcase : ∀ c ∈ hexCharacters, c.toLower = ((digit? c).getD 0).digitChar :=
    List.all_iff_forall_prop.1 (by decide +kernel)
  induction s using List.reverseRecOn generalizing t with
  | nil => rw [List.length_eq_zero_iff.1 hlength.symm]
  | append_singleton s c ih =>
    obtain rfl | ⟨t, d, rfl⟩ := t.eq_nil_or_concat
    · simp at hlength
    simp only [List.concat_eq_append, List.forall_mem_append, List.forall_mem_singleton] at hs ht h hlength
    obtain ⟨-, -, -, hc⟩ := digit?_of_mem c hs.2
    obtain ⟨-, -, -, hd⟩ := digit?_of_mem d ht.2
    rw [ofHexDigits_append, ofHexDigits_append] at h
    have hlast : (digit? c).getD 0 = (digit? d).getD 0 := by omega
    have hbefore : ofHexDigits s = ofHexDigits t := by omega
    have hsame := ih hs.1 ht.1 (by simpa using hlength) hbefore
    simp [hsame, hcase c hs.2, hcase d ht.2, hlast]

/-- With the mark and as many digits, a number has one spelling in small letters. -/
theorem map_toLower_eq_of_marked {width : Nat} {s t : List Char} (hs : isMarked width s = true)
    (ht : isMarked width t = true) (h : read? 16 s = read? 16 t) : s.map Char.toLower = t.map Char.toLower := by
  obtain ⟨x, digits, rfl, hx, hlength, hdigits⟩ := exists_of_isMarked hs
  obtain ⟨y, digits', rfl, hy, hlength', hdigits'⟩ := exists_of_isMarked ht
  have hmark : ∀ x ∈ ['x', 'X'], x.toLower = 'x' := List.all_iff_forall_prop.1 (by decide)
  have hsame : digits.map Char.toLower = digits'.map Char.toLower := by
    by_cases hnil : digits = []
    · subst hnil
      rw [List.length_eq_zero_iff.1 (hlength'.trans hlength.symm)]
    · have hnil' : digits' ≠ [] := by
        rintro rfl
        exact hnil (List.length_eq_zero_iff.1 (hlength.trans hlength'.symm))
      rw [read?_of_mem hx hdigits hnil, read?_of_mem hy hdigits' hnil', Option.some.injEq] at h
      exact map_toLower_eq_of_ofHexDigits hdigits hdigits' (hlength.trans hlength'.symm) (Int.ofNat.inj h)
  simp [hsame, hmark x hx, hmark y hy]

end Integer

end ThermalPress
