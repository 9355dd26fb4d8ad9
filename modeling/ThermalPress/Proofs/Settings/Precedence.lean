import Mathlib.Data.List.Basic
import ThermalPress.Libraries.Encodings
import ThermalPress.Settings.Resolve

/-!
# Which source a setting comes from

Explicit values come before the environment, and the environment before the file.  Validation looks at the settings by
name (`validate_congr`), so resolving the sources is validating, for each setting, the value of the highest source that
gives it one (`Sources.settled`).  What a higher source masks is never looked at, nor is what has no name of a setting:
sources that differ in nothing else have the same outcome (`resolveFrom_eq_validate_settled`).
-/

namespace ThermalPress

namespace Members

variable {α : Type}

/-- The value of the last member of that name. -/
def last? (members : Members α) (name : String) : Option α := members.reverse.lookup name

theorem last?_cons (key : String) (value : α) (members : Members α) (name : String) :
    last? ((key, value) :: members) name = (members.last? name).or (if name = key then some value else none) := by
  rw [last?, List.reverse_cons, List.lookup_append, last?]
  by_cases h : name = key
  · rw [if_pos h, h, List.lookup_cons_self]
  · rw [if_neg h, List.lookup_cons, beq_eq_false_iff_ne.2 h, List.lookup_nil]

theorem last?_append (members : Members α) (key : String) (value : α) (name : String) :
    (members ++ [(key, value)]).last? name = if name = key then some value else members.last? name := by
  rw [last?, List.reverse_append, List.reverse_singleton, List.singleton_append, List.lookup_cons]
  by_cases h : name = key
  · rw [if_pos h, h, beq_self_eq_true]
  · rw [if_neg h, beq_eq_false_iff_ne.2 h, last?]

/-- Of the values that are put under a name the last one stays. -/
theorem find?_putAll (members more : Members α) (name : String) :
    (members.putAll more).find? name = (more.last? name).or (members.find? name) := by
  induction more generalizing members with
  | nil => rfl
  | cons member more ih =>
    obtain ⟨key, value⟩ := member
    have hstep : members.putAll ((key, value) :: more) = (members.put key value).putAll more := rfl
    rw [hstep, ih, find?_put, last?_cons, Option.or_assoc]
    split <;> rfl

/-- Members that are made for names hold what was made for each name. -/
theorem lookup_filterMap (names : List String) (value? : String → Option α) (name : String) :
    (names.filterMap fun name => (value? name).map (name, ·)).lookup name =
      if name ∈ names then value? name else none := by
  induction names with
  | nil => rfl
  | cons first names ih =>
    by_cases hfirst : name = first
    · subst hfirst
      cases hvalue : value? name with
      | none => simp [hvalue, ih]
      | some value => simp [hvalue]
    · cases hvalue : value? first with
      | none => simp [hvalue, ih, hfirst]
      | some value => simp [hvalue, ih, hfirst, List.lookup_cons, beq_eq_false_iff_ne.2 hfirst]

end Members

section Codecs

variable [Codecs]

namespace Sources

/-- The value that the highest source gives a setting. -/
def value? (sources : Sources) (name : String) : Option Json :=
  (sources.overrides.last? name).or <|
    ((sources.environment.lookup (Settings.environmentName name)).map .str).or (sources.file.last? name)

/-- The settings that have a value in some source, each with that of the highest one. -/
def settled (sources : Sources) : Members Json :=
  Settings.names.filterMap fun name => (sources.value? name).map (name, ·)

/-- Both sources give the settings the same values, but for values that are masked in both by a higher source. -/
structure AgreeUnmasked (sources other : Sources) : Prop where
  overrides : ∀ name ∈ Settings.names, sources.overrides.last? name = other.overrides.last? name
  environment : ∀ name ∈ Settings.names, sources.overrides.last? name = none →
    sources.environment.lookup (Settings.environmentName name) =
      other.environment.lookup (Settings.environmentName name)
  file : ∀ name ∈ Settings.names, sources.overrides.last? name = none →
    sources.environment.lookup (Settings.environmentName name) = none →
      sources.file.last? name = other.file.last? name

theorem AgreeUnmasked.value?_eq {sources other : Sources} (h : sources.AgreeUnmasked other) {name : String}
    (hname : name ∈ Settings.names) : sources.value? name = other.value? name := by
  unfold value?
  rw [← h.overrides name hname]
  cases hoverride : sources.overrides.last? name with
  | some value => rfl
  | none =>
    rw [← h.environment name hname hoverride]
    cases hvariable : sources.environment.lookup (Settings.environmentName name) with
    | some text => rfl
    | none => rw [h.file name hname hoverride hvariable]

theorem AgreeUnmasked.settled_eq {sources other : Sources} (h : sources.AgreeUnmasked other) :
    sources.settled = other.settled :=
  List.filterMap_congr fun _ hname => by rw [h.value?_eq hname]

theorem AgreeUnmasked.trans {sources other third : Sources} (h : sources.AgreeUnmasked other)
    (h' : other.AgreeUnmasked third) : sources.AgreeUnmasked third where
  overrides name hname := (h.overrides name hname).trans (h'.overrides name hname)
  environment name hname hoverride :=
    (h.environment name hname hoverride).trans
      (h'.environment name hname ((h.overrides name hname).symm.trans hoverride))
  file name hname hoverride hvariable :=
    (h.file name hname hoverride hvariable).trans
      (h'.file name hname ((h.overrides name hname).symm.trans hoverride)
        ((h.environment name hname hoverride).symm.trans hvariable))

/-- A value in the file that is for no setting, or that is masked, can be added or changed. -/
theorem agreeUnmasked_file (sources : Sources) (key : String) (value : Json)
    (hmasked : key ∈ Settings.names → (sources.overrides.last? key).isSome ∨
      (sources.environment.lookup (Settings.environmentName key)).isSome) :
    sources.AgreeUnmasked { sources with file := sources.file ++ [(key, value)] } where
  overrides _ _ := rfl
  environment _ _ _ := rfl
  file name hname hoverride hvariable := by
    have hkey : name ≠ key := by
      rintro rfl
      rcases hmasked hname with hsome | hsome
      · rw [hoverride] at hsome
        cases hsome
      · rw [hvariable] at hsome
        cases hsome
    exact (Members.last?_append _ _ _ _).symm ▸ (if_neg hkey).symm

/-- A variable that is for no setting, or that is masked, can be added or changed. -/
theorem agreeUnmasked_environment (sources : Sources) (key : String) (text : String)
    (hmasked : ∀ name ∈ Settings.names, Settings.environmentName name = key →
      (sources.overrides.last? name).isSome) :
    sources.AgreeUnmasked { sources with environment := (key, text) :: sources.environment } := by
  have hsame : ∀ name ∈ Settings.names, sources.overrides.last? name = none →
      ((key, text) :: sources.environment).lookup (Settings.environmentName name) =
        sources.environment.lookup (Settings.environmentName name) := by
    intro name hname hoverride
    have hvariable : Settings.environmentName name ≠ key := by
      intro heq
      have hsome := hmasked name hname heq
      rw [hoverride] at hsome
      cases hsome
    rw [List.lookup_cons, beq_eq_false_iff_ne.2 hvariable]
  exact ⟨fun _ _ => rfl, fun name hname hoverride => (hsame name hname hoverride).symm, fun _ _ _ _ => rfl⟩

/-- An explicit value that is for no setting can be added or changed. -/
theorem agreeUnmasked_overrides (sources : Sources) (key : String) (value : Json) (hkey : key ∉ Settings.names) :
    sources.AgreeUnmasked { sources with overrides := sources.overrides ++ [(key, value)] } where
  overrides name hname := by
    have hne : name ≠ key := fun heq => hkey (heq ▸ hname)
    rw [Members.last?_append, if_neg hne]
  environment _ _ _ := rfl
  file _ _ _ _ := rfl

/-- The environment gives values to settings only. -/
theorem last?_environmentValues (environment : Environment) (name : String) :
    (Settings.environmentValues environment).last? name =
      if name ∈ Settings.names then (environment.lookup (Settings.environmentName name)).map .str else none := by
  have hvalues : Settings.environmentValues environment = Settings.names.filterMap fun name =>
      ((environment.lookup (Settings.environmentName name)).map Json.str).map (name, ·) := by
    simp only [Settings.environmentValues, Option.map_map]
    rfl
  rw [hvalues, Members.last?, ← List.filterMap_reverse, Members.lookup_filterMap]
  simp only [List.mem_reverse]

theorem find?_merged (sources : Sources) {name : String} (hname : name ∈ Settings.names) :
    sources.merged.find? name = sources.value? name := by
  rw [merged, Members.find?_putAll, Members.find?_putAll, Members.find?_putAll, last?_environmentValues, if_pos hname,
    value?]
  simp [Members.find?]

theorem find?_settled (sources : Sources) {name : String} (hname : name ∈ Settings.names) :
    sources.settled.find? name = sources.value? name := by
  rw [settled, Members.find?, Members.lookup_filterMap, if_pos hname]

end Sources

namespace Settings

/-- Validation looks at the values of settings, and at no other. -/
theorem validate_congr {values others : Members Json}
    (h : ∀ name ∈ names, values.find? name = others.find? name) : validate values = validate others := by
  have hfold : rules.foldl (applyRule values) ({}, []) = rules.foldl (applyRule others) ({}, []) := by
    refine List.foldl_ext _ _ _ fun found rule hrule => ?_
    unfold applyRule
    rw [h rule.1 (List.mem_map_of_mem hrule)]
  unfold validate
  rw [hfold]

theorem resolve_eq_validate_settled (sources : Sources) : resolve sources = validate sources.settled :=
  validate_congr fun _ hname => by rw [sources.find?_merged hname, sources.find?_settled hname]

/-- There is no file, or one that holds an object with these members. -/
def FileHolds (members : Members Json) : Option (List Char) → Prop
  | none => members = []
  | some text => readFile text = .ok (.obj members)

theorem resolveFrom_of_fileHolds {members : Members Json} {file : Option (List Char)} (hfile : FileHolds members file)
    (environment : Environment) (overrides : Members Json) :
    resolveFrom file environment overrides = (resolve ⟨members, environment, overrides⟩).mapError .values := by
  cases file with
  | none =>
    cases hfile
    rfl
  | some text =>
    have hread : readFile text = .ok (.obj members) := hfile
    unfold resolveFrom
    simp only [hread]
    rfl

/-- Resolving is validating the value of the highest source for each setting.  The outcome is the same for other sources
that differ only in what is masked by a higher source or is no setting. -/
theorem resolveFrom_eq_validate_settled {members : Members Json} {file : Option (List Char)}
    (hfile : FileHolds members file) (environment : Environment) (overrides : Members Json) :
    resolveFrom file environment overrides =
      (validate (Sources.settled ⟨members, environment, overrides⟩)).mapError .values ∧
    ∀ (members' : Members Json) (file' : Option (List Char)) (environment' : Environment)
      (overrides' : Members Json), FileHolds members' file' →
      Sources.AgreeUnmasked ⟨members, environment, overrides⟩ ⟨members', environment', overrides'⟩ →
      resolveFrom file' environment' overrides' = resolveFrom file environment overrides := by
  constructor
  · rw [resolveFrom_of_fileHolds hfile, resolve_eq_validate_settled]
  · intro members' file' environment' overrides' hfile' hagree
    rw [resolveFrom_of_fileHolds hfile, resolveFrom_of_fileHolds hfile', resolve_eq_validate_settled,
      resolve_eq_validate_settled, hagree.settled_eq]

end Settings

end Codecs

namespace Settings

open scoped Libraries in
/-- Invalid values in the file behind a variable and an explicit value, an invalid variable behind an explicit value,
and names of no setting in all sources change nothing. -/
theorem resolveFrom_eq_validate_settled_masked :
    let text := "\x7b\"auto_feed_lines\": 2\x7d".toList
    let text' := "\x7b\"auto_feed_lines\": 2, \"qr_size\": 99, \"line_width\": [], \"colour\": 1\x7d".toList
    let environment : Environment := [("MARKUPPRINTER_QR_SIZE", "8")]
    let environment' := ("MARKUPPRINTER_LINE_WIDTH", "wide") :: ("QR_SIZE", "0") :: environment
    let overrides : Members Json := [("line_width", .int 48)]
    let overrides' : Members Json := [("line_width", .int 48), ("colour", .null)]
    let settings : Settings := { lineWidth := 48, qrSize := 8, autoFeedLines := 2 }
    resolveFrom (some text) environment overrides = .ok settings ∧
      resolveFrom (some text') environment' overrides' = .ok settings := by
  intro text text' environment environment' overrides overrides' settings
  have hfile : FileHolds [("auto_feed_lines", .int 2)] (some text) := by
    show readFile text = _
    decide +kernel
  have hfile' : FileHolds
      [("auto_feed_lines", .int 2), ("qr_size", .int 99), ("line_width", .arr []), ("colour", .int 1)]
      (some text') := by
    show readFile text' = _
    decide +kernel
  have hresult : resolveFrom (some text) environment overrides = .ok settings := by decide +kernel
  obtain ⟨-, hsame⟩ := resolveFrom_eq_validate_settled hfile environment overrides
  refine ⟨hresult, (hsame _ _ _ _ hfile' ?_).trans hresult⟩
  let sources : Sources := ⟨[("auto_feed_lines", .int 2)], environment, overrides⟩
  -- the sources are changed by one value after another
  have hqrSize := sources.agreeUnmasked_file "qr_size" (.int 99) (by decide +kernel)
  have hwidth := hqrSize.trans (Sources.agreeUnmasked_file _ "line_width" (.arr []) (by decide +kernel))
  have hcolour := hwidth.trans (Sources.agreeUnmasked_file _ "colour" (.int 1) (by decide +kernel))
  have hother := hcolour.trans (Sources.agreeUnmasked_environment _ "QR_SIZE" "0" (by decide +kernel))
  have hvariable := hother.trans
    (Sources.agreeUnmasked_environment _ "MARKUPPRINTER_LINE_WIDTH" "wide" (by decide +kernel))
  exact hvariable.trans (Sources.agreeUnmasked_overrides _ "colour" .null (by decide +kernel))

end Settings

end ThermalPress
