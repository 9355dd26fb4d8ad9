import ThermalPress.Proofs.Results
import ThermalPress.Settings.Validation

/-!
# Ranges of validated settings

What can be relied on once settings are validated (`Settings.InRange`).  The defaults are in range, every rule keeps
the settings in range, whatever value it is given, and so validated settings are (`inRange_of_validate`).
-/

namespace ThermalPress.Settings

/-! ### What the readers of values accept -/

private theorem wholeBetween_bounds {least most n : Int} {value : Json} (h : wholeBetween least most value = .ok n) :
    least ≤ n ∧ n ≤ most := by
  simp only [wholeBetween, bind_eq_ok_iff] at h
  obtain ⟨m, -, hm⟩ := h
  split at hm
  · cases hm
  · split at hm
    · cases hm
    · simp only [Except.ok.injEq] at hm
      omega

private theorem nonemptyString_isEmpty {value : Json} {s : String} (h : nonemptyString value = .ok s) :
    s.isEmpty = false := by
  simp only [nonemptyString, bind_eq_ok_iff] at h
  obtain ⟨t, -, ht⟩ := h
  split at ht
  · cases ht
  · simp_all

private theorem lineWidthOf_mem {value : Json} {n : Int} (h : lineWidthOf value = .ok n) :
    n ∈ dotsPerLine.map (·.1) := by
  simp only [lineWidthOf, bind_eq_ok_iff] at h
  obtain ⟨m, -, hm⟩ := h
  split at hm
  · simp_all
  · cases hm

private theorem waitOf_isPositive {value : Json} {x : Binary64} (h : waitOf value = .ok x) :
    x.isPositive = true := by
  simp only [waitOf, bind_eq_ok_iff] at h
  obtain ⟨y, -, hy⟩ := h
  split at hy
  · simp_all
  · cases hy

/-! ### Settings in range -/

variable [Codecs]

private theorem lookup_of_encodingNameOf {value : Json} {name : String} (h : encodingNameOf value = .ok name) :
    Codecs.lookup name = .ok () := by
  simp only [encodingNameOf, bind_eq_ok_iff] at h
  obtain ⟨other, -, hother⟩ := h
  split at hother
  · next hlookup =>
    simp only [Except.ok.injEq] at hother
    exact hother ▸ hlookup
  · cases hother
  · cases hother

/-- Settings whose values all fit the places they are used in. -/
structure InRange (s : Settings) : Prop where
  portName : s.portName.isEmpty = false
  lineWidth : s.lineWidth ∈ dotsPerLine.map (·.1)
  lineSpacing : 0 ≤ s.lineSpacing ∧ s.lineSpacing ≤ 255
  topMarginLines : 0 ≤ s.topMarginLines ∧ s.topMarginLines ≤ 50
  autoFeedLines : 0 ≤ s.autoFeedLines ∧ s.autoFeedLines ≤ 50
  /-- The default is not looked for. -/
  encoding : s.encoding = ({} : Settings).encoding ∨ Codecs.lookup s.encoding = .ok ()
  maxQrLength : 1 ≤ s.maxQrLength ∧ s.maxQrLength ≤ 7089
  qrSize : 1 ≤ s.qrSize ∧ s.qrSize ≤ 16
  qrErrorLevel : 48 ≤ s.qrErrorLevel ∧ s.qrErrorLevel ≤ 51
  rasterMaxWidth : ∀ width ∈ s.rasterMaxWidth, 8 ≤ width
  printTimeout : s.printTimeout.isPositive = true

theorem inRange_default : InRange {} where
  portName := by decide
  lineWidth := by decide
  lineSpacing := by decide
  topMarginLines := by decide
  autoFeedLines := by decide
  encoding := .inl rfl
  maxQrLength := by decide
  qrSize := by decide
  qrErrorLevel := by decide
  rasterMaxWidth := by simp
  printTimeout := by rfl

/-! ### The rules -/

/-- A rule that reads a value and sets a field keeps the range if it does so for each value that it accepts. -/
private theorem inRange_of_read {α : Type} {read : Except Issue α} {set : α → Settings} {s' : Settings}
    (h : (do let v ← read; return set v) = .ok s') (hset : ∀ v, read = .ok v → (set v).InRange) : s'.InRange := by
  obtain ⟨v, hv, hs'⟩ := bind_eq_ok_iff.1 h
  exact pure_eq_ok_iff.1 hs' ▸ hset v hv

/-- The raster width, which alone may also be taken away. -/
private theorem inRange_of_rasterMaxWidth {s s' : Settings} {value : Json} (hs : s.InRange)
    (h : (match value with
      | .null => .ok { s with rasterMaxWidth := none }
      | v => do
        let n ← v.whole
        if n < 8 then .error (.atLeast 8) else .ok { s with rasterMaxWidth := some n } : Except Issue Settings) =
      .ok s') : s'.InRange := by
  split at h
  · cases h
    exact { hs with rasterMaxWidth := by simp }
  · obtain ⟨n, -, hn⟩ := bind_eq_ok_iff.1 h
    split at hn
    · cases hn
    · cases hn
      exact { hs with rasterMaxWidth := by simp; omega }

/-- A rule keeps settings in range, whatever value it is given. -/
theorem inRange_of_rule {rule : String × SettingRule} (hrule : rule ∈ rules) {s s' : Settings} {value : Json}
    (hs : s.InRange) (h : rule.2 s value = .ok s') : s'.InRange := by
  simp only [rules, List.mem_cons, List.not_mem_nil, or_false] at hrule
  rcases hrule with rfl | rfl | rfl | rfl | rfl | rfl | rfl | rfl | rfl | rfl | rfl | rfl | rfl | rfl | rfl | rfl |
    rfl | rfl | rfl
  · exact inRange_of_read h fun _ _ => { hs with }
  · exact inRange_of_read h fun _ hv => { hs with portName := nonemptyString_isEmpty hv }
  · exact inRange_of_read h fun _ _ => { hs with }
  · exact inRange_of_read h fun _ _ => { hs with }
  · exact inRange_of_read h fun _ _ => { hs with }
  · exact inRange_of_read h fun _ _ => { hs with }
  · exact inRange_of_read h fun _ _ => { hs with }
  · exact inRange_of_read h fun _ _ => { hs with }
  · exact inRange_of_read h fun _ hv => { hs with lineWidth := lineWidthOf_mem hv }
  · exact inRange_of_read h fun _ hv => { hs with lineSpacing := wholeBetween_bounds hv }
  · exact inRange_of_read h fun _ hv => { hs with topMarginLines := wholeBetween_bounds hv }
  · exact inRange_of_read h fun _ hv => { hs with autoFeedLines := wholeBetween_bounds hv }
  · exact inRange_of_read h fun _ hv => { hs with encoding := .inr (lookup_of_encodingNameOf hv) }
  · exact inRange_of_read h fun _ hv => { hs with maxQrLength := wholeBetween_bounds hv }
  · exact inRange_of_read h fun _ hv => { hs with qrSize := wholeBetween_bounds hv }
  · exact inRange_of_read h fun _ hv => { hs with qrErrorLevel := wholeBetween_bounds hv }
  · exact inRange_of_rasterMaxWidth hs h
  · exact inRange_of_read h fun _ hv => { hs with printTimeout := waitOf_isPositive hv }
  · exact inRange_of_read h fun _ _ => { hs with }

private theorem inRange_foldl_applyRule {values : Members Json} {part : List (String × SettingRule)}
    (hpart : ∀ rule ∈ part, rule ∈ rules) {found : Settings × List FieldIssue} (hfound : found.1.InRange) :
    (part.foldl (applyRule values) found).1.InRange := by
  induction part generalizing found with
  | nil => exact hfound
  | cons rule part ih =>
    rw [List.foldl_cons]
    apply ih fun other hother => hpart other (List.mem_cons_of_mem _ hother)
    unfold applyRule
    split
    · exact hfound
    · split
      · rename_i settings hsettings
        exact inRange_of_rule (hpart rule (List.mem_cons_self ..)) hfound hsettings
      · exact hfound

/-- Validated settings are in range. -/
theorem inRange_of_validate {values : Members Json} {settings : Settings} (h : validate values = .ok settings) :
    settings.InRange := by
  have hfold : (rules.foldl (applyRule values) ({}, [])).1.InRange :=
    inRange_foldl_applyRule (fun _ hrule => hrule) inRange_default
  unfold validate at h
  split at h
  · rename_i s heq
    cases h
    simpa [heq] using hfold
  · cases h

end ThermalPress.Settings
