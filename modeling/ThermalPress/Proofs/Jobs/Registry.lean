import Mathlib.Data.List.Basic
import ThermalPress.Jobs.Registry

/-!
# Records that stay

While there is room for one more record, a registry only grows at its end (`create_of_room`).  When there is no room,
records go, but none comes that was not created (`create_sublist`).  Changing a record leaves the others as they are
(`update_split`), also where there is none to change (`update_of_absent`).
-/

namespace ThermalPress.Registry

theorem dropOldest_sublist (jobs : List JobRecord) : (dropOldest jobs).Sublist jobs := by
  unfold dropOldest
  split
  · exact List.Sublist.refl jobs
  · exact List.erase_sublist

theorem dropOldestTimes_sublist (count : Nat) (jobs : List JobRecord) :
    (dropOldestTimes count jobs).Sublist jobs := by
  induction count generalizing jobs with
  | zero => exact List.Sublist.refl jobs
  | succ count ih => exact (ih (dropOldest jobs)).trans (dropOldest_sublist jobs)

/-- A registry holds nothing but records that were created. -/
theorem create_sublist (registry : Registry) (job : JobRecord) :
    (registry.create job).jobs.Sublist (registry.jobs ++ [job]) := dropOldestTimes_sublist _ _

/-- A new record takes the place of no other one. -/
def HasRoom (registry : Registry) : Prop := registry.jobs.length < registry.limit

instance (registry : Registry) : Decidable registry.HasRoom := inferInstanceAs (Decidable (_ < _))

/-- With room for one more record, a new one is put behind the others. -/
theorem create_of_room {registry : Registry} (h : registry.HasRoom) (job : JobRecord) :
    registry.create job = { registry with jobs := registry.jobs ++ [job] } := by
  unfold HasRoom at h
  have hnone : (registry.jobs ++ [job]).length - registry.limit = 0 := by
    rw [List.length_append, List.length_singleton]
    omega
  simp only [create, hnone, dropOldestTimes]

theorem isSome_get?_iff {registry : Registry} {id : String} :
    (registry.get? id).isSome = true ↔ ∃ job ∈ registry.jobs, job.id = id := by
  simp [get?, List.find?_isSome]

theorem mem_of_get? {registry : Registry} {id : String} {job : JobRecord} (h : registry.get? id = some job) :
    job ∈ registry.jobs ∧ job.id = id :=
  ⟨List.mem_of_find?_eq_some h, by simpa using List.find?_some h⟩

section Changes

variable {registry : Registry} {id : String}

private theorem map_change_of_absent {jobs : List JobRecord} (h : ∀ job ∈ jobs, job.id ≠ id) (now : Timestamp)
    (change : JobRecord → JobRecord) :
    jobs.map (fun job => if job.id = id then { change job with updatedAt := now } else job) = jobs :=
  (List.map_congr_left fun job hmem => if_neg (h job hmem)).trans (List.map_id' jobs)

theorem update_of_absent (h : ∀ job ∈ registry.jobs, job.id ≠ id) (now : Timestamp)
    (change : JobRecord → JobRecord) : registry.update id now change = registry := by
  rw [update, map_change_of_absent h]

/-- A change of one record is no change of another one. -/
theorem update_split {before after : List JobRecord} {record : JobRecord}
    (hjobs : registry.jobs = before ++ record :: after) (hothers : ∀ job ∈ before ++ after, job.id ≠ record.id)
    (now : Timestamp) (change : JobRecord → JobRecord) :
    (registry.update record.id now change).jobs =
      before ++ { change record with updatedAt := now } :: after := by
  have hbefore := map_change_of_absent (fun job hmem => hothers job (List.mem_append_left _ hmem)) now change
  have hafter := map_change_of_absent (fun job hmem => hothers job (List.mem_append_right _ hmem)) now change
  simp only [update, hjobs, List.map_append, List.map_cons, hbefore, hafter, if_pos]

end Changes

section Last

variable {registry : Registry} {jobs : List JobRecord} {record : JobRecord}

theorem get?_last (hjobs : registry.jobs = jobs ++ [record]) (hnew : ∀ old ∈ jobs, old.id ≠ record.id) :
    registry.get? record.id = some record := by
  rw [get?, hjobs, List.find?_append, List.find?_eq_none.2 (by simpa using hnew)]
  simp

/-- A change of the last record is no change of another one. -/
theorem update_last (hjobs : registry.jobs = jobs ++ [record]) (hnew : ∀ old ∈ jobs, old.id ≠ record.id)
    (now : Timestamp) (change : JobRecord → JobRecord) :
    (registry.update record.id now change).jobs = jobs ++ [{ change record with updatedAt := now }] := by
  exact update_split hjobs (by simpa using hnew) now change

end Last

end ThermalPress.Registry
