import ThermalPress.Settings.FileTree

/-!
# What operations on a file tree change

Each operation, told by what lies at every path afterwards.  Making directories changes nothing but that directories lie
where nothing lay on the way (`AddsDirectories`), and succeeds exactly if no file is in the way
(`exists_makeDirectories_iff`).  A write changes what lies at its path (`write_eq_ok_iff`, `node?_put`), and a move takes
away its source and puts the text of it at its target (`move_eq_ok_iff`).
-/

namespace ThermalPress

namespace FileTree

variable {tree made : FileTree}

/-- The text of the file at a path, if a file lies there. -/
def text? (tree : FileTree) (path : List String) : Option (List Char) :=
  match tree.node? path with
  | some (.file text) => some text
  | _ => none

theorem text?_congr {path : List String} (h : made.node? path = tree.node? path) :
    made.text? path = tree.text? path := by
  rw [text?, text?, h]

/-! ### What lies at a path -/

@[simp] theorem node?_nil (tree : FileTree) : tree.node? [] = some .directory := rfl

private theorem lookup_erase (tree : FileTree) (path other : List String) :
    (tree.erase path).nodes.lookup other = if other = path then none else tree.nodes.lookup other := by
  obtain ⟨nodes⟩ := tree
  unfold erase
  induction nodes with
  | nil => simp
  | cons entry nodes ih =>
    obtain ⟨key, node⟩ := entry
    dsimp only at ih ⊢
    by_cases hkey : key = path
    · rw [List.filter_cons_of_neg (by simp [hkey]), ih]
      split
      · rfl
      · next hother => rw [List.lookup_cons, hkey, beq_eq_false_iff_ne.2 hother]
    · rw [List.filter_cons_of_pos (by simp [hkey]), List.lookup_cons, List.lookup_cons, ih]
      by_cases hother : other = key
      · simp [hother, hkey]
      · simp [beq_eq_false_iff_ne.2 hother]

theorem node?_erase (tree : FileTree) {path : List String} (hpath : path ≠ []) (other : List String) :
    (tree.erase path).node? other = if other = path then none else tree.node? other := by
  by_cases hroot : other = []
  · simp [hroot, Ne.symm hpath]
  · simp only [node?, hroot, if_false, lookup_erase]

theorem node?_put (tree : FileTree) {path : List String} (hpath : path ≠ []) (node : FileNode) (other : List String) :
    (tree.put path node).node? other = if other = path then some node else tree.node? other := by
  by_cases hroot : other = []
  · simp [hroot, Ne.symm hpath]
  · simp only [node?, hroot, if_false, put, List.lookup_cons, lookup_erase]
    by_cases hother : other = path
    · simp [hother]
    · simp [hother, beq_eq_false_iff_ne.2 hother]

/-! ### Making directories -/

/-- Where nothing lay on the way to a path there may be directories now; nothing else has changed. -/
def AddsDirectories (tree : FileTree) (path : List String) (made : FileTree) : Prop :=
  ∀ other, made.node? other = tree.node? other ∨
    (other <+: path ∧ tree.node? other = none ∧ made.node? other = some .directory)

theorem AddsDirectories.refl (tree : FileTree) (path : List String) : AddsDirectories tree path tree :=
  fun _ => .inl rfl

theorem AddsDirectories.mono {path longer : List String} (h : AddsDirectories tree path made) (hpath : path <+: longer) :
    AddsDirectories tree longer made := by
  intro other
  rcases h other with hsame | ⟨hway, hnone, hdirectory⟩
  · exact .inl hsame
  · exact .inr ⟨hway.trans hpath, hnone, hdirectory⟩

/-- Making directories touches no file. -/
theorem AddsDirectories.text?_eq {path : List String} (h : AddsDirectories tree path made) (other : List String) :
    made.text? other = tree.text? other := by
  rcases h other with hsame | ⟨-, hnone, hdirectory⟩
  · exact text?_congr hsame
  · rw [text?, text?, hnone, hdirectory]

private theorem addsDirectories_put {path : List String} (hpath : path ≠ []) (hnone : tree.node? path = none) :
    AddsDirectories tree path (tree.put path .directory) := by
  intro other
  rw [node?_put tree hpath]
  by_cases hother : other = path
  · subst hother
    exact .inr ⟨List.prefix_rfl, hnone, if_pos rfl⟩
  · exact .inl (if_neg hother)

private theorem AddsDirectories.trans {path : List String} {between : FileTree} (h : AddsDirectories tree path between)
    (h' : AddsDirectories between path made) : AddsDirectories tree path made := by
  intro other
  rcases h other with hsame | ⟨hway, hnone, hdirectory⟩
  · rw [← hsame]
    exact h' other
  · rcases h' other with hsame' | ⟨-, hnone', -⟩
    · exact .inr ⟨hway, hnone, hsame'.trans hdirectory⟩
    · rw [hdirectory] at hnone'
      cases hnone'

private theorem addsDirectories_of_makeDirectoriesFrom {done names : List String}
    (h : tree.makeDirectoriesFrom done names = .ok made) : AddsDirectories tree (done ++ names) made := by
  induction names generalizing tree done with
  | nil =>
    rw [makeDirectoriesFrom, Except.ok.injEq] at h
    subst h
    exact .refl tree _
  | cons name names ih =>
    have hpath : done ++ [name] ≠ [] := by simp
    have hway : done ++ name :: names = done ++ [name] ++ names := by simp
    rw [makeDirectoriesFrom] at h
    split at h
    · rw [hway]
      exact ih h
    · cases h
    · next hnone =>
      rw [hway]
      exact ((addsDirectories_put hpath hnone).mono (List.prefix_append _ _)).trans (ih h)

theorem addsDirectories_of_makeDirectories {path : List String} (h : tree.makeDirectories path = .ok made) :
    AddsDirectories tree path made :=
  @addsDirectories_of_makeDirectoriesFrom tree made [] path h

private theorem exists_makeDirectoriesFrom_iff {done names : List String} :
    (∃ made, tree.makeDirectoriesFrom done names = .ok made) ↔
      ∀ way, way <+: names → way ≠ [] → tree.text? (done ++ way) = none := by
  induction names generalizing tree done with
  | nil =>
    constructor
    · intro _ way hway hne
      exact absurd (List.prefix_nil.1 hway) hne
    · exact fun _ => ⟨tree, rfl⟩
  | cons name names ih =>
    have hpath : done ++ [name] ≠ [] := by simp
    -- the first name on the way, and the names behind it
    have hways : (∀ way, way <+: name :: names → way ≠ [] → tree.text? (done ++ way) = none) ↔
        tree.text? (done ++ [name]) = none ∧
          ∀ way, way <+: names → way ≠ [] → tree.text? (done ++ [name] ++ way) = none := by
      constructor
      · intro h
        refine ⟨h [name] (by simp) (by simp), fun way hway _ => ?_⟩
        have hbehind := h (name :: way) (List.cons_prefix_cons.2 ⟨rfl, hway⟩) (by simp)
        simpa using hbehind
      · rintro ⟨hfirst, hbehind⟩ way hway hne
        obtain ⟨first, way, rfl⟩ := List.exists_cons_of_ne_nil hne
        obtain ⟨rfl, hrest⟩ := List.cons_prefix_cons.1 hway
        by_cases hlast : way = []
        · simpa [hlast] using hfirst
        · simpa using hbehind way hrest hlast
    rw [makeDirectoriesFrom, hways]
    cases hnode : tree.node? (done ++ [name]) with
    | none =>
      have hfirst : tree.text? (done ++ [name]) = none := by rw [text?, hnode]
      have hbehind : ∀ way, way ≠ [] →
          (tree.put (done ++ [name]) .directory).text? (done ++ [name] ++ way) = tree.text? (done ++ [name] ++ way) :=
        fun way _ => (addsDirectories_put hpath hnode).text?_eq _
      simp only [ih, hfirst, true_and]
      exact forall_congr' fun way => imp_congr_right fun _ => forall_congr' fun hne => by rw [hbehind way hne]
    | some node =>
      cases node with
      | directory =>
        have hfirst : tree.text? (done ++ [name]) = none := by rw [text?, hnode]
        simp only [ih, hfirst, true_and]
      | file text => simp [text?, hnode]

/-- The directories on a way can be made if no file is in the way. -/
theorem exists_makeDirectories_iff {path : List String} :
    (∃ made, tree.makeDirectories path = .ok made) ↔ ∀ way, way <+: path → tree.text? way = none := by
  rw [makeDirectories, exists_makeDirectoriesFrom_iff]
  constructor
  · intro h way hway
    by_cases hroot : way = []
    · rw [hroot]
      rfl
    · exact h way hway hroot
  · exact fun h way hway _ => h way hway

private theorem node?_makeDirectoriesFrom {done names : List String} (hdone : tree.node? done = some .directory)
    (h : tree.makeDirectoriesFrom done names = .ok made) : made.node? (done ++ names) = some .directory := by
  induction names generalizing tree done with
  | nil =>
    rw [makeDirectoriesFrom, Except.ok.injEq] at h
    rw [← h, List.append_nil, hdone]
  | cons name names ih =>
    have hway : done ++ name :: names = done ++ [name] ++ names := by simp
    rw [hway]
    rw [makeDirectoriesFrom] at h
    split at h
    · next hdirectory => exact ih hdirectory h
    · cases h
    · exact ih (by rw [node?_put tree (by simp), if_pos rfl]) h

/-- A directory that was made is there. -/
theorem node?_makeDirectories {path : List String} (h : tree.makeDirectories path = .ok made) :
    made.node? path = some .directory :=
  node?_makeDirectoriesFrom (node?_nil tree) h

/-! ### Writing and moving -/

theorem write_eq_ok_iff {path : List String} {text : List Char} :
    tree.write path text = .ok made ↔ tree.node? path.dropLast = some .directory ∧
      tree.node? path ≠ some .directory ∧ made = tree.put path (.file text) := by
  unfold write
  cases hparent : tree.node? path.dropLast with
  | none => simp
  | some parent =>
    cases parent with
    | file other => simp
    | directory =>
      cases hnode : tree.node? path with
      | none => simp [eq_comm]
      | some node => cases node <;> simp [eq_comm]

theorem move_eq_ok_iff {source target : List String} : tree.move source target = .ok made ↔
    tree.node? target ≠ some .directory ∧ ∃ text, tree.node? source = some (.file text) ∧
      made = (tree.erase source).put target (.file text) := by
  unfold move
  split
  · next htarget => simp [htarget]
  · next text hsource htarget =>
    rw [Except.ok.injEq]
    constructor
    · rintro rfl
      exact ⟨htarget, text, hsource, rfl⟩
    · rintro ⟨-, other, hother, rfl⟩
      rw [hsource, Option.some.injEq, FileNode.file.injEq] at hother
      rw [hother]
  · next hsource _ =>
    constructor
    · nofun
    · rintro ⟨-, text, hfile, -⟩
      exact absurd hfile (hsource text)

end FileTree

end ThermalPress
