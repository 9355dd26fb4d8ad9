import Mathlib.Data.List.Basic
import ThermalPress.Delivery.Spool

/-!
# The life of a spool buffer

A spool buffer may be staged, read and released in any order, on its own or as a scope that is entered and left, and
the system may fail each time (`SpoolBuffer.run`).  A release deletes the file that is staged and no other one, so a
file stays behind exactly if another one is staged over it, or if the system refuses to delete it
(`releases_run`, `Kept.length_files_run`).  A buffer that is released last leaves nothing behind and has had one
release at most exactly if it was staged once at most (`run_accounts`): one that is entered twice has had two, and one
that is staged twice leaves a file (`run_twice`).
-/

namespace ThermalPress.SpoolBuffer

/-! ### Operations -/

/-- How a staging goes. -/
inductive Staging where
  | done
  /-- No file could be made. -/
  | unmade
  /-- The file could not be filled, and the system may refuse to delete it. -/
  | unfilled (refused : Bool)
  deriving DecidableEq, Repr

/-- What is asked of a buffer, and what the system makes of it. -/
inductive Operation where
  | stage (staging : Staging)
  | read
  /-- A release, in which the system may refuse to delete the file. -/
  | release (refused : Bool)
  /-- The scope of the buffer is entered. -/
  | enter (staging : Staging)
  /-- The scope of the buffer is left. -/
  | exit (refused : Bool)
  deriving DecidableEq, Repr

namespace Operation

/-- A file is staged. -/
def stages : Operation → Bool
  | .stage .done | .enter .done => true
  | _ => false

/-- The staged file is forgotten, if there is one. -/
def releases : Operation → Bool
  | .release _ | .exit _ => true
  | _ => false

end Operation

/-- The buffer after a staging. -/
def tryStage (buffer : SpoolBuffer) : Staging → SpoolBuffer
  | .done => buffer.stage
  | .unmade => buffer
  | .unfilled refused => if refused then buffer.create.refuse else buffer.create.discard

/-- The buffer after a release.  Without a staged file the system has nothing to refuse. -/
def tryRelease (buffer : SpoolBuffer) (refused : Bool) : SpoolBuffer :=
  if refused && buffer.staged.isSome then buffer.forget.refuse else buffer.release

/-- The buffer after an operation. -/
def perform (buffer : SpoolBuffer) : Operation → SpoolBuffer
  | .stage staging | .enter staging => buffer.tryStage staging
  | .read => buffer
  | .release refused | .exit refused => buffer.tryRelease refused

/-- The buffer after operations. -/
def run (buffer : SpoolBuffer) (operations : List Operation) : SpoolBuffer := operations.foldl perform buffer

/-- Whether a file is staged after an operation: one was staged, or one was before and is not released. -/
def stagedAfter (staged : Bool) (operation : Operation) : Bool := operation.stages || staged && !operation.releases

/-- Whether a file is staged after operations on a new buffer. -/
def isStaged (operations : List Operation) : Bool := operations.foldl stagedAfter false

/-- How often a file is staged while another one is; `staged` says if one is at first. -/
def restagings : (staged : Bool) → List Operation → Nat
  | _, [] => 0
  | staged, operation :: operations =>
    (operation.stages && staged).toNat + restagings (stagedAfter staged operation) operations

/-! ### What an operation does -/

/-- What an operation can do to a buffer, by whether it stages and whether it releases. -/
inductive Change (b : SpoolBuffer) : (stages releases : Bool) → SpoolBuffer → Prop
  | staged : Change b true false b.stage
  /-- Nothing but a name that is used up. -/
  | none {made : Nat} (h : b.made ≤ made) : Change b false false { b with made }
  /-- A file that was not filled stays. -/
  | leftover : Change b false false b.create.refuse
  | unstaged (h : b.staged = .none) : Change b false true b
  | deleted {name : Nat} (h : b.staged = some name) :
    Change b false true { b.deleteFile name with staged := .none, releases := b.releases + 1 }
  | refused {name : Nat} (h : b.staged = some name) :
    Change b false true { b with staged := .none, releases := b.releases + 1, refusals := b.refusals + 1 }

private theorem change_tryRelease (b : SpoolBuffer) (refused : Bool) : b.Change false true (b.tryRelease refused) := by
  cases hstaged : b.staged with
  | none =>
    have hsame : b.tryRelease refused = b := by cases refused <;> simp [tryRelease, release, hstaged]
    rw [hsame]
    exact .unstaged hstaged
  | some name =>
    cases refused with
    | true =>
      have hrefused : b.tryRelease true =
          { b with staged := .none, releases := b.releases + 1, refusals := b.refusals + 1 } := by
        simp [tryRelease, forget, refuse, hstaged]
      rw [hrefused]
      exact .refused hstaged
    | false =>
      have hdeleted : b.tryRelease false =
          { b.deleteFile name with staged := .none, releases := b.releases + 1 } := by
        simp [tryRelease, release, hstaged]
      rw [hdeleted]
      exact .deleted hstaged

theorem change_perform (b : SpoolBuffer) (operation : Operation) :
    b.Change operation.stages operation.releases (b.perform operation) := by
  cases operation with
  | stage staging | enter staging =>
    cases staging with
    | done => exact .staged
    | unmade => exact .none (Nat.le_refl _)
    | unfilled refused =>
      cases refused with
      | true => exact .leftover
      | false => exact .none (Nat.le_succ _)
  | read => exact .none (Nat.le_refl _)
  | release refused | exit refused => exact change_tryRelease b refused

/-! ### What is kept -/

/-- Files have names of their own, and the staged one holds the bytes. -/
structure Kept (b : SpoolBuffer) : Prop where
  fresh : ∀ file ∈ b.files, file.1 < b.made
  nodup : (b.files.map (·.1)).Nodup
  staged : ∀ name, b.staged = some name → (name, b.data) ∈ b.files

theorem kept_ofData (data : Bytes) : (ofData data).Kept where
  fresh := by simp [ofData]
  nodup := by simp [ofData]
  staged := by simp [ofData]

section Change

variable {b b' : SpoolBuffer} {stages releases : Bool}

/-- A new file has a name that no other one has. -/
private theorem Kept.newFile (h : b.Kept) (bytes : Bytes) :
    (∀ file ∈ (b.made, bytes) :: b.files, file.1 < b.made + 1) ∧
      (((b.made, bytes) :: b.files).map (·.1)).Nodup := by
  constructor
  · intro file hfile
    rcases List.mem_cons.1 hfile with rfl | hfile
    · exact Nat.lt_succ_self _
    · exact Nat.lt_succ_of_lt (h.fresh file hfile)
  · rw [List.map_cons, List.nodup_cons]
    refine ⟨fun hmem => ?_, h.nodup⟩
    obtain ⟨file, hfile, hname⟩ := List.mem_map.1 hmem
    have hlt := h.fresh file hfile
    rw [hname] at hlt
    exact absurd hlt (Nat.lt_irrefl _)

theorem Kept.change (h : b.Kept) (hchange : b.Change stages releases b') : b'.Kept := by
  cases hchange with
  | staged => exact ⟨(h.newFile b.data).1, (h.newFile b.data).2, by simp [stage, create, fill]⟩
  | none hmade => exact ⟨fun file hfile => Nat.lt_of_lt_of_le (h.fresh file hfile) hmade, h.nodup, h.staged⟩
  | leftover =>
    exact ⟨(h.newFile []).1, (h.newFile []).2, fun name hname => List.mem_cons_of_mem _ (h.staged name hname)⟩
  | unstaged _ => exact h
  | deleted _ =>
    exact ⟨fun file hfile => h.fresh file (List.mem_of_mem_filter hfile),
      h.nodup.sublist (List.filter_sublist.map _), by simp⟩
  | refused _ => exact ⟨h.fresh, h.nodup, by simp⟩

theorem Change.data_eq (h : b.Change stages releases b') : b'.data = b.data := by
  cases h <;> rfl

theorem Change.isSome_staged (h : b.Change stages releases b') :
    b'.staged.isSome = (stages || b.staged.isSome && !releases) := by
  cases h with
  | staged => rfl
  | unstaged hstaged => simp [hstaged]
  | _ => simp [create, refuse]

/-- Staging a file makes it one that will be released, staged over, or staged still. -/
theorem Change.releases_eq (h : b.Change stages releases b') :
    b'.releases + b'.staged.isSome.toNat + (stages && b.staged.isSome).toNat =
      b.releases + b.staged.isSome.toNat + stages.toNat := by
  cases h with
  | staged =>
    simp only [stage, create, fill, Option.isSome_some, Bool.true_and, Bool.toNat_true]
    omega
  | unstaged hstaged | deleted hstaged | refused hstaged => simp [hstaged]
  | _ => simp [create, refuse]

/-- The staged file stands among others that have other names. -/
private theorem Kept.exists_split (h : b.Kept) {name : Nat} (hstaged : b.staged = some name) :
    ∃ front back, b.files = front ++ (name, b.data) :: back ∧ ∀ file ∈ front ++ back, file.1 ≠ name := by
  obtain ⟨front, back, hfiles⟩ := List.append_of_mem (h.staged name hstaged)
  refine ⟨front, back, hfiles, fun file hfile => ?_⟩
  have hnodup := h.nodup
  rw [hfiles, List.map_append, List.map_cons, List.nodup_append, List.nodup_cons] at hnodup
  rcases List.mem_append.1 hfile with hfile | hfile
  · exact hnodup.2.2 file.1 (List.mem_map_of_mem hfile) name (List.mem_cons_self ..)
  · intro hname
    exact hnodup.2.1.1 (List.mem_map.2 ⟨file, hfile, hname⟩)

private theorem Kept.length_deleteFile (h : b.Kept) {name : Nat} (hstaged : b.staged = some name) :
    (b.deleteFile name).files.length + 1 = b.files.length := by
  obtain ⟨front, back, hfiles, hothers⟩ := h.exists_split hstaged
  have hrest : b.files.filter (·.1 ≠ name) = front ++ back := by
    have hkeep : (front ++ back).filter (·.1 ≠ name) = front ++ back :=
      List.filter_eq_self.2 fun file hfile => decide_eq_true (hothers file hfile)
    rw [← hkeep, hfiles, List.filter_append, List.filter_append, List.filter_cons_of_neg (by simp)]
  rw [deleteFile, hrest, hfiles]
  simp only [List.length_append, List.length_cons]
  omega

/-- A staging makes a file, a release takes one away, and a refusal leaves one. -/
theorem Kept.length_files_change (h : b.Kept) (hchange : b.Change stages releases b') :
    b'.files.length + b'.releases + b.refusals =
      b.files.length + b.releases + stages.toNat + b'.refusals := by
  cases hchange with
  | staged | leftover =>
    simp only [stage, create, fill, refuse, List.length_cons, Bool.toNat_true, Bool.toNat_false]
    omega
  | deleted hstaged =>
    have hlength := h.length_deleteFile hstaged
    simp only [deleteFile, Bool.toNat_false] at hlength ⊢
    omega
  | none _ | unstaged _ | refused _ =>
    simp only [Bool.toNat_false]
    omega

/-- Reading gives the bytes back as long as a file is staged. -/
theorem Kept.read_eq (h : b.Kept) : b.read = if b.staged.isSome then .ok b.data else .error .notStaged := by
  unfold read
  cases hstaged : b.staged with
  | none => rfl
  | some name =>
    obtain ⟨front, back, hfiles, hothers⟩ := h.exists_split hstaged
    have hfront : ∀ file ∈ front, (name != file.1) = true := fun file hfile =>
      bne_iff_ne.2 (hothers file (List.mem_append_left _ hfile)).symm
    simp only [List.lookup_eq_some_iff.2 ⟨front, back, hfiles, hfront⟩, Option.isSome_some, ↓reduceIte]

end Change

/-! ### What a run leaves -/

section Run

private theorem run_cons (b : SpoolBuffer) (operation : Operation) (operations : List Operation) :
    b.run (operation :: operations) = (b.perform operation).run operations := rfl

private theorem countP_stages_cons (operation : Operation) (operations : List Operation) :
    (operation :: operations).countP Operation.stages =
      operations.countP Operation.stages + operation.stages.toNat := by
  rw [List.countP_cons]
  cases operation.stages <;> rfl

theorem Kept.run {b : SpoolBuffer} (h : b.Kept) (operations : List Operation) : (b.run operations).Kept := by
  induction operations generalizing b with
  | nil => exact h
  | cons operation operations ih => exact ih (h.change (b.change_perform operation))

variable (b : SpoolBuffer) (operations : List Operation)

theorem data_run : (b.run operations).data = b.data := by
  induction operations generalizing b with
  | nil => rfl
  | cons operation operations ih => exact (ih (b.perform operation)).trans (b.change_perform operation).data_eq

theorem isSome_staged_run : (b.run operations).staged.isSome = operations.foldl stagedAfter b.staged.isSome := by
  induction operations generalizing b with
  | nil => rfl
  | cons operation operations ih =>
    rw [List.foldl_cons, stagedAfter, ← (b.change_perform operation).isSome_staged]
    exact ih (b.perform operation)

/-- Every file that is staged is released, staged over, or staged still. -/
theorem releases_run :
    (b.run operations).releases + restagings b.staged.isSome operations + (b.run operations).staged.isSome.toNat =
      b.releases + b.staged.isSome.toNat + operations.countP Operation.stages := by
  induction operations generalizing b with
  | nil => simp [run, restagings]
  | cons operation operations ih =>
    have hchange := b.change_perform operation
    have hstep := hchange.releases_eq
    have hrest := ih (b.perform operation)
    rw [hchange.isSome_staged] at hstep hrest
    rw [restagings, stagedAfter, countP_stages_cons, run_cons]
    omega

theorem Kept.length_files_run {b : SpoolBuffer} (h : b.Kept) (operations : List Operation) :
    (b.run operations).files.length + (b.run operations).releases + b.refusals =
      b.files.length + b.releases + operations.countP Operation.stages + (b.run operations).refusals := by
  induction operations generalizing b with
  | nil => rfl
  | cons operation operations ih =>
    have hchange := b.change_perform operation
    have hstep := h.length_files_change hchange
    have hrest := ih (h.change hchange)
    rw [countP_stages_cons, run_cons]
    omega

end Run

/-! ### New buffers -/

section New

variable {operations : List Operation}

private theorem restagings_le (staged : Bool) (operations : List Operation) :
    restagings staged operations ≤ operations.countP Operation.stages := by
  induction operations generalizing staged with
  | nil => exact Nat.le_refl 0
  | cons operation operations ih =>
    have hrest := ih (stagedAfter staged operation)
    have hhere : (operation.stages && staged).toNat ≤ operation.stages.toNat := by
      cases operation.stages <;> cases staged <;> decide
    rw [restagings, countP_stages_cons]
    omega

/-- The first file is staged over no other one. -/
theorem restagings_lt (h : 0 < operations.countP Operation.stages) :
    restagings false operations < operations.countP Operation.stages := by
  induction operations with
  | nil => exact absurd h (Nat.lt_irrefl 0)
  | cons operation operations ih =>
    rw [countP_stages_cons] at h ⊢
    rw [restagings, Bool.and_false, Bool.toNat_false, Nat.zero_add]
    cases hstages : operation.stages with
    | true =>
      have hrest := restagings_le (stagedAfter false operation) operations
      rw [Bool.toNat_true]
      omega
    | false =>
      rw [hstages, Bool.toNat_false, Nat.add_zero] at h
      have hrest := ih h
      simpa [stagedAfter, hstages] using hrest

theorem isStaged_append_of_releases {last : Operation} (h : last.releases = true) (before : List Operation) :
    isStaged (before ++ [last]) = false := by
  have hstages : last.stages = false := by cases last <;> first | rfl | cases h
  simp [isStaged, stagedAfter, h, hstages]

/-- After any operations on a new buffer, reading gives the bytes back exactly if a file is staged.  Every file that
was staged has been released, or staged over, or is staged still; those that are there are the ones staged over, the
ones that the system refused to delete, and the staged one.  So once a release has come last and no deletion was
refused, there has been one release at most and no file is there exactly if one file was staged at most. -/
theorem run_accounts (data : Bytes) (operations : List Operation) :
    ((ofData data).run operations).read = (if isStaged operations then .ok data else .error .notStaged) ∧
    ((ofData data).run operations).releases + restagings false operations + (isStaged operations).toNat =
      operations.countP Operation.stages ∧
    ((ofData data).run operations).files.length =
      restagings false operations + ((ofData data).run operations).refusals + (isStaged operations).toNat ∧
    ∀ before last, operations = before ++ [last] → last.releases = true →
      ((ofData data).run operations).refusals = 0 →
      (((ofData data).run operations).releases ≤ 1 ∧ ((ofData data).run operations).files = [] ↔
        operations.countP Operation.stages ≤ 1) := by
  have hread := ((kept_ofData data).run operations).read_eq
  have hstaged : ((ofData data).run operations).staged.isSome = isStaged operations := isSome_staged_run _ _
  have hreleases : ((ofData data).run operations).releases + restagings false operations +
      ((ofData data).run operations).staged.isSome.toNat = 0 + 0 + operations.countP Operation.stages :=
    releases_run (ofData data) operations
  have hfiles : ((ofData data).run operations).files.length + ((ofData data).run operations).releases + 0 =
      0 + 0 + operations.countP Operation.stages + ((ofData data).run operations).refusals :=
    (kept_ofData data).length_files_run operations
  rw [data_run, hstaged] at hread
  rw [hstaged] at hreleases
  refine ⟨hread, by omega, by omega, ?_⟩
  rintro before last rfl hlast hrefusals
  have hunstaged := isStaged_append_of_releases hlast before
  rw [hunstaged, Bool.toNat_false] at hreleases
  rw [← List.length_eq_zero_iff]
  constructor
  · rintro ⟨hone, hnone⟩
    omega
  · intro hone
    by_cases hany : 0 < (before ++ [last]).countP Operation.stages
    · have hfirst := restagings_lt hany
      omega
    · omega

/-- A buffer that is staged once, after a staging that failed, leaves nothing behind when it is released again. -/
theorem run_accounts_staged_once :
    let before : List Operation := [.release false, .stage .unmade, .enter .done, .read, .exit false]
    let operations := before ++ [Operation.release false]
    let buffer := (ofData [0x41]).run operations
    buffer.refusals = 0 ∧ operations.countP Operation.stages = 1 ∧ buffer.releases = 1 ∧
      buffer.files = [] ∧ buffer.read = .error .notStaged := by
  intro before operations buffer
  obtain ⟨hread, hreleases, -, hlast⟩ := run_accounts [0x41] operations
  have hrefusals : buffer.refusals = 0 := by decide
  obtain ⟨-, hfiles⟩ := (hlast before (.release false) rfl rfl hrefusals).2 (by decide)
  exact ⟨hrefusals, by decide, hreleases, hfiles, hread⟩

/-- A buffer that is entered twice has two releases, and one that is staged twice leaves a file behind. -/
theorem run_twice :
    ((ofData [0x41]).run [.enter .done, .exit false, .enter .done, .exit false]).releases = 2 ∧
      ((ofData [0x41]).run [.stage .done, .stage .done, .release false]).files = [(0, [0x41])] := by
  decide

end New

end ThermalPress.SpoolBuffer
