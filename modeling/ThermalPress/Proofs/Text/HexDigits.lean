import ThermalPress.Number.Integer

/-!
# Hexadecimal digits

A number can be read off its hexadecimal digits, zeros in front or not (`ofHexDigits_hexDigits`), so no two numbers
have the same digits (`hexDigits_inj`).
-/

namespace ThermalPress

/-- The number that hexadecimal digits stand for. -/
def ofHexDigits (digits : List Char) : Nat := digits.foldl (fun n c => n * 16 + (Integer.digit? c).getD 0) 0

theorem ofHexDigits_append (digits : List Char) (c : Char) :
    ofHexDigits (digits ++ [c]) = ofHexDigits digits * 16 + (Integer.digit? c).getD 0 := by
  simp [ofHexDigits]

private theorem digit?_digitChar {d : Nat} (h : d < 16) : Integer.digit? d.digitChar = some d := by
  revert h
  revert d
  decide

private theorem ofHexDigits_toDigits (n : Nat) : ofHexDigits (Nat.toDigits 16 n) = n := by
  induction n using Nat.strongRecOn with
  | ind n ih =>
    rw [Nat.toDigits_eq_if (by decide)]
    split
    · next hlt => simp [ofHexDigits, digit?_digitChar hlt]
    · next hge =>
      rw [ofHexDigits_append, ih (n / 16) (by omega), digit?_digitChar (Nat.mod_lt n (by decide)), Option.getD_some]
      omega

private theorem ofHexDigits_zeros (count : Nat) (digits : List Char) :
    ofHexDigits (List.replicate count '0' ++ digits) = ofHexDigits digits := by
  have hzero : (Integer.digit? '0').getD 0 = 0 := by decide
  induction count with
  | zero => rfl
  | succ count ih =>
    rw [← ih]
    simp [ofHexDigits, List.replicate_succ, hzero]

/-- The digits of a number, filled up with zeros, give it back. -/
theorem ofHexDigits_hexDigits (width n : Nat) : ofHexDigits (hexDigits width n) = n := by
  rw [hexDigits, ofHexDigits_zeros, ofHexDigits_toDigits]

theorem hexDigits_inj {width m n : Nat} (h : hexDigits width m = hexDigits width n) : m = n := by
  rw [← ofHexDigits_hexDigits width m, h, ofHexDigits_hexDigits]

end ThermalPress
