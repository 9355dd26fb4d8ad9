import ThermalPress.Markup.Token

/-!
# Visible text

What is left of a text once everything that looks like a tag is taken out, recognised or not: each stretch from a
`<` to the nearest `>` (`withoutTags`).  Its length is the width of a cell, and a shortened form of it stands for a
document in messages (`preview`).
-/

namespace ThermalPress

/-- What follows the first `>`, if there is one. -/
def afterClose? (s : List Char) : Option (List Char) :=
  match s.dropWhile (· ≠ '>') with
  | [] => none
  | _ :: rest => some rest

theorem length_afterClose {s rest : List Char} (h : afterClose? s = some rest) : rest.length < s.length := by
  have hd : (s.dropWhile (· ≠ '>')).length ≤ s.length := (List.dropWhile_sublist _).length_le
  unfold afterClose? at h
  split at h
  · simp at h
  · next c tail hs =>
    simp only [Option.some.injEq] at h
    simp only [hs, List.length_cons, h] at hd
    omega

/-- The text without what looks like a tag. -/
def withoutTags : List Char → List Char
  | [] => []
  | c :: rest =>
    if c = '<' then
      match _h : afterClose? rest with
      | some rest => withoutTags rest
      | none => c :: rest
    else c :: withoutTags rest
termination_by s => s.length
decreasing_by
  · have := length_afterClose _h; simp only [List.length_cons]; omega
  · simp

/-- The number of visible characters of a text. -/
def visibleWidth (s : List Char) : Nat := (withoutTags s).length

/-- The characters that a row of tokens was read from. -/
def rawText (tokens : List Token) : List Char := tokens.flatMap (·.raw)

/-- The elements of a list up to a position, which counts from the end when it is negative. -/
def takeUpTo {α : Type} (limit : Int) (s : List α) : List α :=
  if 0 ≤ limit then s.take limit.toNat else s.take (s.length - limit.natAbs)

/-- The visible text, cut behind `limit` characters and then ending in three dots. -/
def preview (limit : Int) (s : List Char) : List Char :=
  let visible := withoutTags s
  if visible.length ≤ limit then visible else takeUpTo limit visible ++ ['.', '.', '.']

/-- The number of characters that a preview keeps where nothing else is asked for. -/
def previewLimit : Int := 100

end ThermalPress
