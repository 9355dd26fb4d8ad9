import Mathlib.Data.List.Induction
import Mathlib.Data.Set.Insert
import ThermalPress.Proofs.Settings.Trees
import ThermalPress.Settings.Store

/-!
# Configuration files as registers

A call that saves values (`Saving`) ends in one of two ways (`Saving.after_cases`).  Either it does not return, and then
directories on the way to its path and the file beside it are all that may have changed (`Prepares`).  Or it returns, and
then besides these the text of its values lies at its path, and nothing beside it.

So calls for paths that stand apart from each other (`Apart`) do not disturb each other, whatever a call that did not
return has left behind: each path holds what the last call for it that returned has saved (`node?_afterAll`), and loads
as that (`load_savings`).
-/

namespace ThermalPress.Settings

/-- A call that saves values at a path, and where the system ends it, if it does. -/
structure Saving where
  path : List String
  values : Json
  interruption : Option Interruption
  deriving DecidableEq, Repr

namespace Saving

/-- The text that the call saves. -/
def text (s : Saving) : List Char := s.values.text Json.fileForm

/-- The tree after the call. -/
def after (s : Saving) (tree : FileTree) : FileTree :=
  match s.interruption with
  | none => (save tree s.path s.values).1
  | some interruption => interrupted tree s.path interruption

/-- Whether the call returns. -/
def returns (s : Saving) (tree : FileTree) : Bool :=
  s.interruption.isNone && (save tree s.path s.values).2.isNone

end Saving

/-- The tree after several calls. -/
def afterAll (tree : FileTree) (savings : List Saving) : FileTree := savings.foldl (fun tree s => s.after tree) tree

/-- Those of several calls that return. -/
def returned (tree : FileTree) : List Saving → List Saving
  | [] => []
  | s :: savings => (if s.returns tree then [s] else []) ++ returned (s.after tree) savings

/-- The last call for a path that returns. -/
def lastSaved? (tree : FileTree) (savings : List Saving) (path : List String) : Option Saving :=
  ((returned tree savings).filter fun s => s.path = path).getLast?

/-- No path is the file beside another one, or lies on the way to another one. -/
structure Apart (paths : Set (List String)) : Prop where
  beside : ∀ path ∈ paths, besidePath path ∉ paths
  above : ∀ path ∈ paths, ∀ other ∈ paths, path <+: other → path = other

/-- Nothing in the tree stands against a text beside a path: there is no file on the way, and no directory in place of
the file beside. -/
def Stageable (tree : FileTree) (path : List String) : Prop :=
  (∀ way, way <+: path.dropLast → tree.text? way = none) ∧ tree.node? (besidePath path) ≠ some .directory

/-- Nothing in the tree stands against saving at a path: nor is the path itself a directory. -/
def Savable (tree : FileTree) (path : List String) : Prop := Stageable tree path ∧ tree.node? path ≠ some .directory

/-! ### The file beside a path -/

theorem besidePath_ne_nil (path : List String) : besidePath path ≠ [] := by simp [besidePath]

theorem dropLast_besidePath (path : List String) : (besidePath path).dropLast = path.dropLast := by simp [besidePath]

/-- A path with names is not on the way to itself. -/
private theorem not_prefix_dropLast {path : List String} (hpath : path ≠ []) : ¬ path <+: path.dropLast := by
  intro hway
  have hlength := hway.length_le
  have hpos := List.length_pos_iff.2 hpath
  rw [List.length_dropLast] at hlength
  omega

theorem besidePath_ne (path : List String) : besidePath path ≠ path := by
  intro heq
  cases path using List.reverseRecOn with
  | nil => exact besidePath_ne_nil [] heq
  | append_singleton path name _ =>
    simp only [besidePath, List.dropLast_concat, List.getLast?_concat, Option.getD_some, List.append_cancel_left_eq,
      List.cons.injEq, and_true] at heq
    have hlength := congrArg String.length heq
    simp at hlength

/-! ### What one call changes -/

variable {tree : FileTree} {path : List String}

/-- The trees differ at most in directories on the way to a path, and in the file beside it. -/
def Prepares (tree : FileTree) (path : List String) (prepared : FileTree) : Prop :=
  ∀ other, other ≠ besidePath path → prepared.node? other = tree.node? other ∨
    (other <+: path.dropLast ∧ tree.node? other = none ∧ prepared.node? other = some .directory)

section Prepares

variable {made prepared : FileTree}

private theorem prepares_of_addsDirectories (h : tree.AddsDirectories path.dropLast made) : Prepares tree path made :=
  fun other _ => h other

private theorem prepares_put (h : tree.AddsDirectories path.dropLast made) (text : List Char) :
    Prepares tree path (made.put (besidePath path) (.file text)) := by
  intro other hother
  rw [FileTree.node?_put made (besidePath_ne_nil path), if_neg hother]
  exact h other

/-- What lies elsewhere than on the way has not changed. -/
theorem Prepares.node?_eq (h : Prepares tree path prepared) {other : List String} (hother : other ≠ besidePath path)
    (hway : ¬ other <+: path.dropLast) : prepared.node? other = tree.node? other :=
  (h other hother).resolve_right fun hnew => hway hnew.1

/-- What lies at the path itself has not changed. -/
theorem Prepares.node?_self (h : Prepares tree path prepared) : prepared.node? path = tree.node? path := by
  by_cases hpath : path = []
  · rw [hpath, FileTree.node?_nil, FileTree.node?_nil]
  · exact h.node?_eq (besidePath_ne path).symm (not_prefix_dropLast hpath)

theorem Prepares.text?_eq (h : Prepares tree path prepared) {other : List String} (hother : other ≠ besidePath path) :
    prepared.text? other = tree.text? other := by
  rcases h other hother with hsame | ⟨-, hnone, hdirectory⟩
  · exact FileTree.text?_congr hsame
  · rw [FileTree.text?, FileTree.text?, hnone, hdirectory]

end Prepares

/-- Staging ends with an error, or with the text beside the path. -/
theorem stageText_cases (tree : FileTree) (path : List String) (text : List Char) :
    (¬ Stageable tree path ∧ ∃ left e, stageText tree path text = (left, some e) ∧ Prepares tree path left) ∨
    (Stageable tree path ∧ ∃ staged, stageText tree path text = (staged, none) ∧ Prepares tree path staged ∧
      staged.node? (besidePath path) = some (.file text)) := by
  unfold stageText
  cases hmade : tree.makeDirectories path.dropLast with
  | error e =>
    refine .inl ⟨fun hstageable => ?_, tree, e, rfl, fun other _ => .inl rfl⟩
    obtain ⟨made, hok⟩ := FileTree.exists_makeDirectories_iff.2 hstageable.1
    rw [hmade] at hok
    cases hok
  | ok made =>
    have hadds := FileTree.addsDirectories_of_makeDirectories hmade
    have hways := FileTree.exists_makeDirectories_iff.1 ⟨made, hmade⟩
    have hbeside : made.node? (besidePath path) = tree.node? (besidePath path) := by
      refine (hadds _).resolve_right fun hnew => not_prefix_dropLast (besidePath_ne_nil path) ?_
      rw [dropLast_besidePath]
      exact hnew.1
    have hparent : made.node? (besidePath path).dropLast = some .directory := by
      rw [dropLast_besidePath]
      exact FileTree.node?_makeDirectories hmade
    cases hwrite : made.write (besidePath path) text with
    | error e =>
      refine .inl ⟨fun hstageable => ?_, made, e, by simp only [hwrite], prepares_of_addsDirectories hadds⟩
      have hfree : made.node? (besidePath path) ≠ some .directory := by rw [hbeside]; exact hstageable.2
      have hok : made.write (besidePath path) text = .ok _ := FileTree.write_eq_ok_iff.2 ⟨hparent, hfree, rfl⟩
      rw [hwrite] at hok
      cases hok
    | ok staged =>
      obtain ⟨-, hfree, rfl⟩ := FileTree.write_eq_ok_iff.1 hwrite
      refine .inr ⟨⟨hways, by rw [← hbeside]; exact hfree⟩, _, by simp only [hwrite], prepares_put hadds text, ?_⟩
      rw [FileTree.node?_put made (besidePath_ne_nil path), if_pos rfl]

/-- Saving ends with an error, or with the text at the path and nothing beside it. -/
theorem saveText_cases (tree : FileTree) (path : List String) (text : List Char) :
    (¬ Savable tree path ∧ ∃ left e, saveText tree path text = (left, some e) ∧ Prepares tree path left) ∨
    (Savable tree path ∧ ∃ staged, Prepares tree path staged ∧
      saveText tree path text = ((staged.erase (besidePath path)).put path (.file text), none)) := by
  unfold saveText
  rcases stageText_cases tree path text with
    ⟨hnot, left, e, hstage, hprepares⟩ | ⟨hstageable, staged, hstage, hprepares, hbeside⟩
  · exact .inl ⟨fun hsavable => hnot hsavable.1, left, e, by simp only [hstage], hprepares⟩
  · cases hmove : staged.move (besidePath path) path with
    | error e =>
      refine .inl ⟨fun hsavable => ?_, staged, e, by simp only [hstage, hmove], hprepares⟩
      have hok := FileTree.move_eq_ok_iff.2 ⟨by rw [hprepares.node?_self]; exact hsavable.2, text, hbeside, rfl⟩
      rw [hmove] at hok
      cases hok
    | ok moved =>
      obtain ⟨hfree, other, hother, rfl⟩ := FileTree.move_eq_ok_iff.1 hmove
      rw [hbeside, Option.some.injEq, FileNode.file.injEq] at hother
      subst hother
      rw [hprepares.node?_self] at hfree
      exact .inr ⟨⟨hstageable, hfree⟩, staged, hprepares, by simp only [hstage, hmove]⟩

/-- A saving that the system ends has come no further than the file beside. -/
theorem prepares_interrupted (tree : FileTree) (path : List String) (interruption : Interruption) :
    Prepares tree path (interrupted tree path interruption) := by
  cases interruption with
  | directories made =>
    have hway : path.dropLast.take made <+: path.dropLast := List.take_prefix _ _
    cases hmade : tree.makeDirectories (path.dropLast.take made) with
    | error e => exact fun other _ => .inl (by simp [interrupted, hmade, Except.toOption])
    | ok left =>
      have hleft : interrupted tree path (.directories made) = left := by simp [interrupted, hmade, Except.toOption]
      rw [hleft]
      exact prepares_of_addsDirectories ((FileTree.addsDirectories_of_makeDirectories hmade).mono hway)
  | writing written =>
    rcases stageText_cases tree path written with ⟨-, left, e, hstage, hprepares⟩ | ⟨-, left, hstage, hprepares, -⟩ <;>
    · rw [interrupted, hstage]
      exact hprepares

/-- A call does not return, and leaves its path as it was; or it returns, and has its text at its path and nothing beside
it. -/
theorem Saving.after_cases (s : Saving) (tree : FileTree) :
    (s.returns tree = false ∧ Prepares tree s.path (s.after tree)) ∨
    (s.returns tree = true ∧ ∃ staged, Prepares tree s.path staged ∧ ∀ other, (s.after tree).node? other =
      if other = s.path then some (.file s.text) else if other = besidePath s.path then none
      else staged.node? other) := by
  obtain ⟨path, values, interruption⟩ := s
  cases interruption with
  | some interruption => exact .inl ⟨rfl, prepares_interrupted tree path interruption⟩
  | none =>
    simp only [Saving.returns, Saving.after, Saving.text, save, Option.isNone_none, Bool.true_and]
    rcases saveText_cases tree path (values.text Json.fileForm) with
      ⟨-, left, e, hsave, hprepares⟩ | ⟨hsavable, staged, hprepares, hsave⟩
    · exact .inl ⟨by rw [hsave]; rfl, by rw [hsave]; exact hprepares⟩
    · have hpath : path ≠ [] := by
        rintro rfl
        exact hsavable.2 (FileTree.node?_nil tree)
      refine .inr ⟨by rw [hsave]; rfl, staged, hprepares, fun other => ?_⟩
      rw [hsave, FileTree.node?_put _ hpath, FileTree.node?_erase _ (besidePath_ne_nil path)]

/-- A call returns if nothing in the tree stands against it and the system lets it go on. -/
theorem Saving.returns_iff (s : Saving) (tree : FileTree) :
    s.returns tree = true ↔ s.interruption = none ∧ Savable tree s.path := by
  rw [Saving.returns, Bool.and_eq_true, Option.isNone_iff_eq_none]
  refine and_congr_right fun _ => ?_
  rcases saveText_cases tree s.path (s.values.text Json.fileForm) with
    ⟨hnot, left, e, hsave, -⟩ | ⟨hsavable, staged, -, hsave⟩
  · simp [save, hsave, hnot]
  · simp [save, hsave, hsavable]

/-! ### What calls for paths that stand apart leave at these -/

variable {paths : Set (List String)}

/-- A call for a path leaves the other paths as they were. -/
theorem Saving.node?_after_of_ne (hpaths : Apart paths) {s : Saving} (hs : s.path ∈ paths) (hpath : path ∈ paths)
    (hne : path ≠ s.path) (tree : FileTree) : (s.after tree).node? path = tree.node? path := by
  have hbeside : path ≠ besidePath s.path := fun heq => hpaths.beside s.path hs (heq ▸ hpath)
  have hway : ¬ path <+: s.path.dropLast := fun hway =>
    hne (hpaths.above path hpath s.path hs (hway.trans (List.dropLast_prefix _)))
  rcases s.after_cases tree with ⟨-, hprepares⟩ | ⟨-, staged, hprepares, hafter⟩
  · exact hprepares.node?_eq hbeside hway
  · rw [hafter, if_neg hne, if_neg hbeside, hprepares.node?_eq hbeside hway]

/-- A call that does not return leaves every path as it was. -/
theorem Saving.node?_after_of_not_returns (hpaths : Apart paths) {s : Saving} (hs : s.path ∈ paths)
    (hpath : path ∈ paths) (h : s.returns tree = false) : (s.after tree).node? path = tree.node? path := by
  by_cases hne : path = s.path
  · rcases s.after_cases tree with ⟨-, hprepares⟩ | ⟨hreturns, -⟩
    · rw [hne, hprepares.node?_self]
    · rw [h] at hreturns
      cases hreturns
  · exact s.node?_after_of_ne hpaths hs hpath hne tree

/-- A call that returns has its text at its path, and nothing beside it. -/
theorem Saving.node?_after_of_returns {s : Saving} (h : s.returns tree = true) :
    (s.after tree).node? s.path = some (.file s.text) ∧ (s.after tree).node? (besidePath s.path) = none := by
  rcases s.after_cases tree with ⟨hnot, -⟩ | ⟨-, staged, -, hafter⟩
  · rw [h] at hnot
    cases hnot
  · rw [hafter, hafter, if_pos rfl, if_neg (besidePath_ne s.path), if_pos rfl]
    exact ⟨rfl, rfl⟩

/-- A call touches no file but those at its path and beside it. -/
theorem Saving.text?_after_of_ne {s : Saving} (hbeside : path ≠ besidePath s.path) (hne : path ≠ s.path)
    (tree : FileTree) : (s.after tree).text? path = tree.text? path := by
  rcases s.after_cases tree with ⟨-, hprepares⟩ | ⟨-, staged, hprepares, hafter⟩
  · exact hprepares.text?_eq hbeside
  · rw [← hprepares.text?_eq hbeside]
    apply FileTree.text?_congr
    rw [hafter, if_neg hne, if_neg hbeside]

/-! ### What a run of calls leaves -/

variable {savings : List Saving}

@[simp] theorem afterAll_concat (tree : FileTree) (savings : List Saving) (s : Saving) :
    afterAll tree (savings ++ [s]) = s.after (afterAll tree savings) := by
  rw [afterAll, List.foldl_append]
  rfl

theorem returned_concat (tree : FileTree) (savings : List Saving) (s : Saving) :
    returned tree (savings ++ [s]) =
      returned tree savings ++ if s.returns (afterAll tree savings) then [s] else [] := by
  induction savings generalizing tree with
  | nil => exact List.append_nil _
  | cons first savings ih =>
    simp only [List.cons_append, returned, ih, List.append_assoc]
    rfl

theorem lastSaved?_concat (tree : FileTree) (savings : List Saving) (s : Saving) (path : List String) :
    lastSaved? tree (savings ++ [s]) path =
      if s.returns (afterAll tree savings) ∧ s.path = path then some s else lastSaved? tree savings path := by
  rw [lastSaved?, returned_concat]
  by_cases hreturns : s.returns (afterAll tree savings)
  · by_cases hpath : s.path = path <;> simp [hreturns, hpath, lastSaved?]
  · simp [hreturns, lastSaved?]

/-- Each path holds what the last call for it that returned has saved, or what it held before. -/
theorem node?_afterAll (hpaths : Apart paths) (tree : FileTree) (hsavings : ∀ s ∈ savings, s.path ∈ paths)
    (hpath : path ∈ paths) : (afterAll tree savings).node? path =
      (lastSaved? tree savings path).elim (tree.node? path) fun s => some (.file s.text) := by
  induction savings using List.reverseRecOn with
  | nil => rfl
  | append_singleton savings s ih =>
    have hs : s.path ∈ paths := hsavings s (by simp)
    have hbefore := ih fun t ht => hsavings t (by simp [ht])
    rw [afterAll_concat, lastSaved?_concat]
    by_cases hreturns : s.returns (afterAll tree savings)
    · by_cases hself : s.path = path
      · subst hself
        simp [hreturns, (Saving.node?_after_of_returns hreturns).1]
      · rw [if_neg (fun h => hself h.2), s.node?_after_of_ne hpaths hs hpath (Ne.symm hself), hbefore]
    · rw [Bool.not_eq_true] at hreturns
      rw [if_neg (by simp [hreturns]), Saving.node?_after_of_not_returns hpaths hs hpath hreturns, hbefore]

theorem text?_afterAll (tree : FileTree) (hsavings : ∀ s ∈ savings, path ≠ s.path ∧ path ≠ besidePath s.path) :
    (afterAll tree savings).text? path = tree.text? path := by
  induction savings using List.reverseRecOn with
  | nil => rfl
  | append_singleton savings s ih =>
    obtain ⟨hne, hbeside⟩ := hsavings s (by simp)
    rw [afterAll_concat, Saving.text?_after_of_ne hbeside hne, ih fun t ht => hsavings t (by simp [ht])]

/-- What loads from a path depends on what lies there. -/
theorem load_congr {other : FileTree} (h : other.node? path = tree.node? path) : load other path = load tree path := by
  unfold load FileTree.read
  rw [h]
  cases tree.node? path with
  | none => rfl
  | some node => cases node <;> rfl

theorem load_file {text : List Char} (h : tree.node? path = some (.file text)) :
    load tree path = (readFile text).mapError .json >>= fun values => .ok (some values) := by
  unfold load FileTree.read
  rw [h]
  rfl

/-- After several calls for paths that stand apart, each path loads as the values of the last call for it that returned,
or as before if none did.  A call returns exactly if nothing in the tree stands against it and the system lets it go on.
One that does not return leaves every path as it was, one that returns leaves nothing beside its path, and other files,
unless they lie beside a path, do not change. -/
theorem load_savings (hpaths : Apart paths) (tree : FileTree) (hsavings : ∀ s ∈ savings, s.path ∈ paths) :
    (∀ path ∈ paths,
      (∀ s, lastSaved? tree savings path = some s → readFile s.text = .ok s.values →
        load (afterAll tree savings) path = .ok (some s.values)) ∧
      (lastSaved? tree savings path = none → load (afterAll tree savings) path = load tree path)) ∧
    (∀ front s back, savings = front ++ s :: back →
      (s.returns (afterAll tree front) = true ↔ s.interruption = none ∧ Savable (afterAll tree front) s.path) ∧
      (s.returns (afterAll tree front) = false → ∀ path ∈ paths,
        (s.after (afterAll tree front)).node? path = (afterAll tree front).node? path) ∧
      (s.returns (afterAll tree front) = true →
        (s.after (afterAll tree front)).node? (besidePath s.path) = none)) ∧
    ∀ other, other ∉ paths → (∀ path ∈ paths, other ≠ besidePath path) →
      (afterAll tree savings).text? other = tree.text? other := by
  refine ⟨fun path hpath => ⟨fun s hlast hread => ?_, fun hlast => ?_⟩, ?_, ?_⟩
  · have hnode := node?_afterAll hpaths tree hsavings hpath
    rw [hlast] at hnode
    rw [load_file hnode, hread]
    rfl
  · have hnode := node?_afterAll hpaths tree hsavings hpath
    rw [hlast] at hnode
    exact load_congr hnode
  · rintro front s back rfl
    have hs : s.path ∈ paths := hsavings s (by simp)
    exact ⟨s.returns_iff _, fun hnot path hpath => Saving.node?_after_of_not_returns hpaths hs hpath hnot,
      fun hreturns => (Saving.node?_after_of_returns hreturns).2⟩
  · intro other hother hbeside
    refine text?_afterAll tree fun s hs => ⟨?_, hbeside s.path (hsavings s hs)⟩
    rintro rfl
    exact hother (hsavings s hs)

/-- A tree with a file left beside another one, a directory, and a file that no call is for. -/
def litteredTree : FileTree :=
  ⟨[(["c.json"], .file ['?']), (["c.json.tmp"], .file ['[']), (["d"], .directory), (["keep"], .file ['!'])]⟩

/-- Of these calls the second one finds a directory at its path, and the system ends the third one. -/
def litteringSavings : List Saving :=
  [⟨["c.json"], .obj [("a", .int 1)], none⟩, ⟨["d"], .obj [], none⟩,
    ⟨["c.json"], .obj [("a", .int 2)], some (.writing ['['])⟩, ⟨["e", "f.json"], .obj [], none⟩]

theorem load_savings_littered :
    Apart {["c.json"], ["d"], ["e", "f.json"]} ∧
    (∀ s ∈ litteringSavings, s.path ∈ ({["c.json"], ["d"], ["e", "f.json"]} : Set (List String))) ∧
    load (afterAll litteredTree litteringSavings) ["c.json"] = .ok (some (.obj [("a", .int 1)])) ∧
    load (afterAll litteredTree litteringSavings) ["d"] = load litteredTree ["d"] ∧
    (Saving.after ⟨["c.json"], .obj [("a", .int 1)], none⟩ litteredTree).node? ["c.json.tmp"] = none ∧
    (afterAll litteredTree litteringSavings).text? ["keep"] = some ['!'] := by
  have hpaths : Apart {["c.json"], ["d"], ["e", "f.json"]} :=
    ⟨by simp [besidePath], by simp⟩
  have hsavings : ∀ s ∈ litteringSavings, s.path ∈ ({["c.json"], ["d"], ["e", "f.json"]} : Set (List String)) := by
    simp [litteringSavings]
  obtain ⟨hloads, hcalls, hothers⟩ := load_savings hpaths litteredTree hsavings
  refine ⟨hpaths, hsavings, ?_, ?_, ?_, ?_⟩
  · have hlast : lastSaved? litteredTree litteringSavings ["c.json"] =
        some ⟨["c.json"], .obj [("a", .int 1)], none⟩ := by
      decide +kernel
    have hread : readFile (Saving.text ⟨["c.json"], .obj [("a", .int 1)], none⟩) = .ok (.obj [("a", .int 1)]) := by
      decide +kernel
    exact (hloads ["c.json"] (by simp)).1 _ hlast hread
  · exact (hloads ["d"] (by simp)).2 (by decide +kernel)
  · exact (hcalls [] _ _ rfl).2.2 (by decide +kernel)
  · rw [hothers ["keep"] (by simp) (by simp [besidePath])]
    rfl

end ThermalPress.Settings
