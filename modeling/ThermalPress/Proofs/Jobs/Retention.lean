import Mathlib.Data.List.Nodup
import Mathlib.Data.List.Perm.Subperm
import ThermalPress.Proofs.Jobs.Registry

/-!
# Which jobs a registry keeps

A registry drops one record at a time, always an oldest one, and of several equally old ones the one created first
(`dropOldest_split`).  A record that is dropped precedes all that stay, and so it precedes every later one that is kept
when they are dropped in their turn (`Retains.dropOldest`).  After any accesses a registry holds the newest of all jobs
that were ever created, as many as its limit allows, whatever the times are that they were created at (`newest_held`);
which these are leaves no choice (`Retains.unique`).
-/

namespace ThermalPress.Registry

/-! ### What is dropped -/

theorem oldest?_eq_none_iff {jobs : List JobRecord} : oldest? jobs = none ↔ jobs = [] := by
  cases jobs with
  | nil => simp [oldest?]
  | cons job jobs =>
    unfold oldest?
    split
    · simp
    · split <;> simp

theorem oldest?_split {jobs : List JobRecord} {o : JobRecord} (h : oldest? jobs = some o) :
    ∃ before after, jobs = before ++ o :: after ∧ (∀ b ∈ before, o.createdAt < b.createdAt) ∧
      ∀ a ∈ after, o.createdAt ≤ a.createdAt := by
  induction jobs generalizing o with
  | nil => cases h
  | cons job jobs ih =>
    unfold oldest? at h
    split at h
    · next hnone =>
      obtain rfl := oldest?_eq_none_iff.1 hnone
      cases h
      exact ⟨[], [], rfl, by simp, by simp⟩
    · next other hother =>
      obtain ⟨before, after, hsplit, hbefore, hafter⟩ := ih hother
      split at h
      · next hle =>
        cases h
        refine ⟨[], jobs, rfl, by simp, fun a ha => ?_⟩
        rw [hsplit, List.mem_append, List.mem_cons] at ha
        rcases ha with ha | rfl | ha
        · exact Nat.le_trans hle (Nat.le_of_lt (hbefore a ha))
        · exact hle
        · exact Nat.le_trans hle (hafter a ha)
      · next hlt =>
        cases h
        refine ⟨job :: before, after, by rw [hsplit, List.cons_append], fun b hb => ?_, hafter⟩
        rcases List.mem_cons.1 hb with rfl | hb
        · exact Nat.not_le.1 hlt
        · exact hbefore b hb

/-- The record that is dropped is older than those before it and not newer than those behind it. -/
theorem dropOldest_split (jobs : List JobRecord) (h : jobs ≠ []) :
    ∃ before o after, jobs = before ++ o :: after ∧ dropOldest jobs = before ++ after ∧
      (∀ b ∈ before, o.createdAt < b.createdAt) ∧ ∀ a ∈ after, o.createdAt ≤ a.createdAt := by
  cases ho : oldest? jobs with
  | none => exact absurd (oldest?_eq_none_iff.1 ho) h
  | some o =>
    obtain ⟨before, after, rfl, hbefore, hafter⟩ := oldest?_split ho
    have hnew : o ∉ before := fun hmem => Nat.lt_irrefl _ (hbefore o hmem)
    refine ⟨before, o, after, rfl, ?_, hbefore, hafter⟩
    rw [dropOldest, ho]
    simp only [List.erase_append_right _ hnew, List.erase_cons_head]

/-! ### Accesses -/

/-- What is asked of a registry. -/
inductive Access where
  | create (job : JobRecord)
  | update (id : String) (now : Timestamp) (change : JobRecord → JobRecord)
  | get (id : String)
  | list

/-- The registry after an access. -/
def after (registry : Registry) : Access → Registry
  | .create job => registry.create job
  | .update id now change => registry.update id now change
  | .get _ | .list => registry

/-- The registry after all accesses. -/
def run (limit : Nat) (accesses : List Access) : Registry := accesses.foldl after (empty limit)

/-- The jobs that are created, as they are at first. -/
def created (accesses : List Access) : List JobRecord :=
  accesses.filterMap fun
    | .create job => some job
    | _ => none

/-- All jobs so far with all their changes, also of those that the registry has dropped. -/
def extendHistory (history : List JobRecord) : Access → List JobRecord
  | .create job => history ++ [job]
  | .update id now change =>
    history.map fun job => if job.id = id then { change job with updatedAt := now } else job
  | .get _ | .list => history

/-- All jobs that were ever created, in this order and with all their changes. -/
def history (accesses : List Access) : List JobRecord := accesses.foldl extendHistory []

/-- Jobs have an id of their own, and neither this nor their time is changed. -/
structure Sound (accesses : List Access) : Prop where
  distinct : ((created accesses).map (·.id)).Nodup
  keeps : ∀ id now change, .update id now change ∈ accesses → ∀ job,
    (change job).id = job.id ∧ (change job).createdAt = job.createdAt

/-! ### What is kept -/

/-- One job comes before another in the order of the times they were created at, and at one time in the order of their
creation. -/
def Precedes (past : List JobRecord) (a b : JobRecord) : Prop :=
  a.createdAt < b.createdAt ∨ a.createdAt = b.createdAt ∧ [a, b].Sublist past

/-- The jobs are the last ones of the past in this order, as many as there may be. -/
structure Retains (limit : Nat) (past jobs : List JobRecord) : Prop where
  sublist : jobs.Sublist past
  length : jobs.length = min past.length limit
  newest : ∀ a ∈ past, a ∉ jobs → ∀ b ∈ jobs, Precedes past a b

section Steps

variable {limit : Nat} {past jobs : List JobRecord}

theorem Precedes.mono {others : List JobRecord} (hsub : past.Sublist others) {a b : JobRecord}
    (h : Precedes past a b) : Precedes others a b := by
  rcases h with htime | ⟨htime, horder⟩
  · exact .inl htime
  · exact .inr ⟨htime, horder.trans hsub⟩

theorem Precedes.le {a b : JobRecord} (h : Precedes past a b) : a.createdAt ≤ b.createdAt := by
  rcases h with htime | ⟨htime, -⟩
  · exact Nat.le_of_lt htime
  · exact Nat.le_of_eq htime

/-- In the order of creation nothing comes behind a new job. -/
theorem precedes_new {a job : JobRecord} (ha : a ∈ past) (h : a.createdAt ≤ job.createdAt) :
    Precedes (past ++ [job]) a job := by
  rcases Nat.lt_or_eq_of_le h with htime | htime
  · exact .inl htime
  · exact .inr ⟨htime, (List.singleton_sublist.2 ha).append_right [job]⟩

/-- The record that goes precedes all that stay: those before it are newer, and those behind it are as old at most and
came later. -/
private theorem precedes_of_split {before after : List JobRecord} {o : JobRecord}
    (hsub : (before ++ o :: after).Sublist past) (hbefore : ∀ b ∈ before, o.createdAt < b.createdAt)
    (hafter : ∀ a ∈ after, o.createdAt ≤ a.createdAt) : ∀ b ∈ before ++ after, Precedes past o b := by
  intro b hb
  rcases List.mem_append.1 hb with hb | hb
  · exact .inl (hbefore b hb)
  · rcases Nat.lt_or_eq_of_le (hafter b hb) with htime | htime
    · exact .inl htime
    · have hpair : [o, b].Sublist (o :: after) := (List.singleton_sublist.2 hb).cons_cons o
      exact .inr ⟨htime, (hpair.trans (List.sublist_append_right before _)).trans hsub⟩

theorem create_of_full {registry : Registry} (h : registry.jobs.length = registry.limit) (job : JobRecord) :
    registry.create job = { registry with jobs := dropOldest (registry.jobs ++ [job]) } := by
  have hone : (registry.jobs ++ [job]).length - registry.limit = 1 := by
    rw [List.length_append, List.length_singleton]
    omega
  simp only [create, hone, dropOldestTimes]

/-- With room, a new job is kept with all the others. -/
private theorem Retains.append (h : Retains limit past jobs) (hroom : jobs.length < limit) (job : JobRecord) :
    Retains limit (past ++ [job]) (jobs ++ [job]) := by
  have hlength := h.length
  obtain rfl : jobs = past := h.sublist.eq_of_length (by omega)
  refine ⟨List.Sublist.refl _, ?_, fun a ha hdropped => absurd ha hdropped⟩
  rw [List.length_append, List.length_singleton]
  omega

/-- Without room one record goes, which precedes all that stay.  What went earlier precedes the old records that stay,
and the new one too, unless that is the one to go: an old record that goes now lies between them. -/
private theorem Retains.dropOldest (h : Retains limit past jobs) (hfull : jobs.length = limit) (job : JobRecord) :
    Retains limit (past ++ [job]) (dropOldest (jobs ++ [job])) := by
  obtain ⟨before, o, after, hsplit, hdrop, hbefore, hafter⟩ := dropOldest_split (jobs ++ [job]) (by simp)
  have hsub : (before ++ o :: after).Sublist (past ++ [job]) := hsplit ▸ h.sublist.append_right [job]
  have hpast : past.Sublist (past ++ [job]) := List.sublist_append_left ..
  have hgone := precedes_of_split hsub hbefore hafter
  -- The record that goes is the new job itself, or an old one.
  have hwhich : before ++ after = jobs ∨ o ∈ jobs := by
    rcases List.eq_nil_or_concat after with rfl | ⟨behind, last, rfl⟩
    · left
      rw [List.append_nil]
      exact (List.append_inj' hsplit rfl).1.symm
    · right
      have hsplit' : jobs ++ [job] = (before ++ o :: behind) ++ [last] := by simp [hsplit]
      rw [(List.append_inj' hsplit' rfl).1]
      simp
  rw [hdrop]
  refine ⟨((List.sublist_cons_self ..).append_left before).trans hsub, ?_, fun a ha hdropped b hb => ?_⟩
  · have hlengths := congrArg List.length hsplit
    have hlength := h.length
    simp only [List.length_append, List.length_cons, List.length_nil] at hlengths ⊢
    omega
  · by_cases hheld : a ∈ jobs ++ [job]
    · rw [hsplit] at hheld
      have ho : a = o := by simp_all
      exact ho ▸ hgone b hb
    · have hmem : b ∈ jobs ++ [job] := by
        rw [hsplit]
        exact ((List.sublist_cons_self ..).append_left before).subset hb
      rw [List.mem_append, List.mem_singleton, not_or] at hheld
      have hold : a ∈ past := (List.mem_append.1 ha).resolve_right (by simpa using hheld.2)
      have hnewest {c : JobRecord} (hc : c ∈ jobs) : Precedes (past ++ [job]) a c :=
        (h.newest a hold hheld.1 c hc).mono hpast
      rcases List.mem_append.1 hmem with hb' | hb'
      · exact hnewest hb'
      · obtain rfl := List.mem_singleton.1 hb'
        rcases hwhich with hall | ho
        · exact hnewest (hall ▸ hb)
        · exact precedes_new hold (Nat.le_trans (hnewest ho).le (hgone b hb).le)

theorem Retains.create {registry : Registry} (h : Retains registry.limit past registry.jobs) (job : JobRecord) :
    Retains registry.limit (past ++ [job]) (registry.create job).jobs := by
  by_cases hroom : registry.HasRoom
  · rw [create_of_room hroom]
    exact h.append hroom job
  · have hfull : registry.jobs.length = registry.limit := by
      have hlength := h.length
      unfold HasRoom at hroom
      omega
    rw [create_of_full hfull]
    exact h.dropOldest hfull job

theorem Retains.update (h : Retains limit past jobs) {f : JobRecord → JobRecord}
    (hf : ∀ job, (f job).createdAt = job.createdAt) : Retains limit (past.map f) (jobs.map f) where
  sublist := h.sublist.map f
  length := by simpa using h.length
  newest := by
    intro a' ha' hdropped b' hb'
    obtain ⟨a, ha, rfl⟩ := List.mem_map.1 ha'
    obtain ⟨b, hb, rfl⟩ := List.mem_map.1 hb'
    have hold : a ∉ jobs := fun hmem => hdropped (List.mem_map_of_mem hmem)
    simp only [Precedes, hf]
    rcases h.newest a ha hold b hb with htime | ⟨htime, horder⟩
    · exact .inl htime
    · exact .inr ⟨htime, horder.map f⟩

end Steps

/-! ### No other jobs -/

section Unique

variable {limit : Nat} {past jobs others : List JobRecord}

private theorem not_sublist_swap {a b : JobRecord} (hnodup : past.Nodup) (h : [a, b].Sublist past) :
    ¬ [b, a].Sublist past := by
  induction past with
  | nil => cases h
  | cons first past ih =>
    intro hswap
    rw [List.nodup_cons] at hnodup
    cases h with
    | cons _ h =>
      cases hswap with
      | cons _ hswap => exact ih hnodup.2 h hswap
      | cons_cons _ hswap => exact hnodup.1 (h.subset (by simp))
    | cons_cons _ h =>
      cases hswap with
      | cons _ hswap => exact hnodup.1 (hswap.subset (by simp))
      | cons_cons _ hswap => exact hnodup.1 (h.subset (by simp))

theorem Precedes.asymm {a b : JobRecord} (hnodup : past.Nodup) (h : Precedes past a b) : ¬ Precedes past b a := by
  intro hback
  rcases h with htime | ⟨htime, horder⟩
  · exact Nat.not_le.2 htime hback.le
  · rcases hback with hback | ⟨-, hback⟩
    · exact Nat.lt_irrefl _ (htime ▸ hback)
    · exact not_sublist_swap hnodup horder hback

private theorem Retains.subset (h : Retains limit past jobs) (hother : Retains limit past others)
    (hnodup : past.Nodup) : jobs ⊆ others := by
  intro a ha
  by_contra hmissing
  obtain ⟨b, hb, hnew⟩ : ∃ b ∈ others, b ∉ jobs := by
    by_contra hnone
    have hsub : others ⊆ jobs := fun b hb => by_contra fun hnew => hnone ⟨b, hb, hnew⟩
    have hperm := (List.subperm_of_subset (hother.sublist.nodup hnodup) hsub).perm_of_length_le
      (Nat.le_of_eq (h.length.trans hother.length.symm))
    exact hmissing (hperm.mem_iff.2 ha)
  have hfirst := hother.newest a (h.sublist.subset ha) hmissing b hb
  exact hfirst.asymm hnodup (h.newest b (hother.sublist.subset hb) hnew a ha)

/-- Which jobs are the newest ones leaves no choice. -/
theorem Retains.unique (h : Retains limit past jobs) (hother : Retains limit past others) (hnodup : past.Nodup) :
    jobs = others := by
  have hperm := (List.subperm_of_subset (h.sublist.nodup hnodup) (h.subset hother hnodup)).perm_of_length_le
    (Nat.le_of_eq (hother.length.trans h.length.symm))
  have hordered {held : List JobRecord} (hheld : held.Sublist past) :
      held.Pairwise fun a b => [a, b].Sublist past :=
    List.pairwise_iff_forall_sublist.2 fun hpair => hpair.trans hheld
  exact List.Perm.eq_of_pairwise (fun a b _ _ hab hba => absurd hba (not_sublist_swap hnodup hab))
    (hordered h.sublist) (hordered hother.sublist) hperm

end Unique

/-! ### Runs -/

section Runs

variable {registry : Registry} {past : List JobRecord}

theorem limit_after (registry : Registry) (access : Access) : (registry.after access).limit = registry.limit := by
  cases access <;> rfl

theorem Retains.after (h : Retains registry.limit past registry.jobs) (access : Access)
    (hkeeps : ∀ id now change, access = .update id now change → ∀ job, (change job).createdAt = job.createdAt) :
    Retains (registry.after access).limit (extendHistory past access) (registry.after access).jobs := by
  rw [limit_after]
  cases access with
  | create job => exact h.create job
  | update id now change =>
    refine h.update fun job => ?_
    split
    · exact hkeeps id now change rfl job
    · rfl
  | get id => exact h
  | list => exact h

private theorem retains_foldl (h : Retains registry.limit past registry.jobs) {accesses : List Access}
    (hkeeps : ∀ id now change, .update id now change ∈ accesses → ∀ job, (change job).createdAt = job.createdAt) :
    Retains (accesses.foldl after registry).limit (accesses.foldl extendHistory past)
      (accesses.foldl after registry).jobs := by
  induction accesses generalizing registry past with
  | nil => exact h
  | cons access accesses ih =>
    have hfirst := h.after access fun id now change haccess =>
      hkeeps id now change (haccess ▸ List.mem_cons_self ..)
    exact ih hfirst fun id now change hmem => hkeeps id now change (List.mem_cons_of_mem _ hmem)

private theorem limit_foldl (registry : Registry) (accesses : List Access) :
    (accesses.foldl after registry).limit = registry.limit := by
  induction accesses generalizing registry with
  | nil => rfl
  | cons access accesses ih => rw [List.foldl_cons, ih, limit_after]

/-- After any accesses a registry holds the newest of all jobs that were created. -/
theorem retains_run (limit : Nat) {accesses : List Access} (h : Sound accesses) :
    Retains limit (history accesses) (run limit accesses).jobs := by
  have hempty : Retains (empty limit).limit [] (empty limit).jobs := ⟨List.Sublist.refl _, by simp [empty], by simp⟩
  have hrun := retains_foldl hempty fun id now change hmem job => (h.keeps id now change hmem job).2
  rw [limit_foldl] at hrun
  exact hrun

/-- What a change leaves as it is. -/
def identity (job : JobRecord) : String × Timestamp := (job.id, job.createdAt)

private theorem identity_foldl (past : List JobRecord) {accesses : List Access}
    (hkeeps : ∀ id now change, .update id now change ∈ accesses → ∀ job,
      (change job).id = job.id ∧ (change job).createdAt = job.createdAt) :
    (accesses.foldl extendHistory past).map identity = past.map identity ++ (created accesses).map identity := by
  induction accesses generalizing past with
  | nil => simp [created]
  | cons access accesses ih =>
    rw [List.foldl_cons, ih _ fun id now change hmem => hkeeps id now change (List.mem_cons_of_mem _ hmem)]
    cases access with
    | create job => simp [extendHistory, created]
    | update id now change =>
      have hsame : ∀ job,
          identity (if job.id = id then { change job with updatedAt := now } else job) = identity job := by
        intro job
        obtain ⟨hid, htime⟩ := hkeeps id now change (List.mem_cons_self ..) job
        split
        · exact Prod.ext hid htime
        · rfl
      simp [extendHistory, created, Function.comp_def, hsame]
    | get id => rfl
    | list => rfl

/-- The jobs of the history are those that were created. -/
theorem identity_history {accesses : List Access} (h : Sound accesses) :
    (history accesses).map identity = (created accesses).map identity := by
  simpa [history] using identity_foldl [] h.keeps

theorem ids_nodup_history {accesses : List Access} (h : Sound accesses) :
    ((history accesses).map (·.id)).Nodup := by
  have hids := congrArg (List.map Prod.fst) (identity_history h)
  rw [List.map_map, List.map_map] at hids
  have hdistinct : ((created accesses).map (Prod.fst ∘ identity)).Nodup := h.distinct
  rwa [← hids] at hdistinct

end Runs

/-! ### Changes -/

theorem update_of_mem {registry : Registry} (hids : (registry.jobs.map (·.id)).Nodup) {record : JobRecord}
    (hmem : record ∈ registry.jobs) (now : Timestamp) (change : JobRecord → JobRecord) :
    ∃ before after, registry.jobs = before ++ record :: after ∧
      (registry.update record.id now change).jobs =
        before ++ { change record with updatedAt := now } :: after := by
  obtain ⟨before, after, hsplit⟩ := List.append_of_mem hmem
  refine ⟨before, after, hsplit, ?_⟩
  rw [hsplit, List.map_append, List.map_cons, List.nodup_middle, ← List.map_append, List.nodup_cons] at hids
  exact update_split hsplit (fun job hjob hid => hids.1 (hid ▸ List.mem_map_of_mem hjob)) now change

/-! ### Listing -/

section Listing

variable (registry : Registry)

private theorem newer_trans (a b c : JobRecord) (hab : decide (b.createdAt ≤ a.createdAt) = true)
    (hbc : decide (c.createdAt ≤ b.createdAt) = true) : decide (c.createdAt ≤ a.createdAt) = true :=
  decide_eq_true (Nat.le_trans (of_decide_eq_true hbc) (of_decide_eq_true hab))

private theorem newer_total (a b : JobRecord) :
    (decide (b.createdAt ≤ a.createdAt) || decide (a.createdAt ≤ b.createdAt)) = true := by
  simpa using Nat.le_total b.createdAt a.createdAt

theorem newestFirst_perm : registry.newestFirst.Perm registry.jobs := List.mergeSort_perm ..

/-- Of the jobs created at one time, none is moved. -/
theorem filter_newestFirst (t : Timestamp) :
    registry.newestFirst.filter (·.createdAt = t) = registry.jobs.filter (·.createdAt = t) := by
  have hpairs : (registry.jobs.filter (·.createdAt = t)).Pairwise fun a b => decide (b.createdAt ≤ a.createdAt) := by
    refine List.pairwise_of_forall_mem_list fun a ha b hb => ?_
    have hta : a.createdAt = t := by simpa using (List.mem_filter.1 ha).2
    have htb : b.createdAt = t := by simpa using (List.mem_filter.1 hb).2
    exact decide_eq_true (Nat.le_of_eq (htb.trans hta.symm))
  have hsub := (List.sublist_mergeSort newer_trans newer_total hpairs List.filter_sublist).filter (·.createdAt = t)
  rw [List.filter_filter] at hsub
  simp only [Bool.and_self] at hsub
  exact (hsub.eq_of_length (((newestFirst_perm registry).filter _).length_eq).symm).symm

/-- The listing goes from the newest job to the oldest, and leaves jobs of one time as they are. -/
theorem pairwise_newestFirst : registry.newestFirst.Pairwise fun a b =>
    b.createdAt < a.createdAt ∨ b.createdAt = a.createdAt ∧ [a, b].Sublist registry.jobs := by
  rw [List.pairwise_iff_forall_sublist]
  intro a b hpair
  have hsorted := List.pairwise_mergeSort newer_trans newer_total registry.jobs
  have hle : b.createdAt ≤ a.createdAt := of_decide_eq_true (List.pairwise_iff_forall_sublist.1 hsorted hpair)
  rcases Nat.lt_or_eq_of_le hle with htime | htime
  · exact .inl htime
  · have hfilter := hpair.filter (·.createdAt = a.createdAt)
    rw [filter_newestFirst] at hfilter
    have hboth : [a, b].filter (·.createdAt = a.createdAt) = [a, b] := by simp [htime]
    rw [hboth] at hfilter
    exact .inr ⟨htime, hfilter.trans List.filter_sublist⟩

end Listing

/-- Whatever is asked of a registry, as long as jobs keep ids of their own and their times: it holds the newest of all
jobs that were created, as many as its limit allows and no others, each with all its changes.  A change of a job that
it does not hold changes nothing, and one of a job that it holds changes that job only.  It lists each job once, the
newest first and those of one time in the order of their creation. -/
theorem newest_held (limit : Nat) {accesses : List Access} (h : Sound accesses) :
    Retains limit (history accesses) (run limit accesses).jobs ∧
    (∀ jobs, Retains limit (history accesses) jobs → jobs = (run limit accesses).jobs) ∧
    (history accesses).map identity = (created accesses).map identity ∧
    (∀ id now change, (∀ job ∈ (run limit accesses).jobs, job.id ≠ id) →
      (run limit accesses).update id now change = run limit accesses) ∧
    (∀ record ∈ (run limit accesses).jobs, ∀ now change, ∃ before after,
      (run limit accesses).jobs = before ++ record :: after ∧
        ((run limit accesses).update record.id now change).jobs =
          before ++ { change record with updatedAt := now } :: after) ∧
    (run limit accesses).newestFirst.Perm (run limit accesses).jobs ∧ (run limit accesses).newestFirst.Nodup ∧
    (run limit accesses).newestFirst.Pairwise fun a b =>
      b.createdAt < a.createdAt ∨ b.createdAt = a.createdAt ∧ [a, b].Sublist (history accesses) := by
  have hretains := retains_run limit h
  have hpast := ids_nodup_history h
  have hids : ((run limit accesses).jobs.map (·.id)).Nodup := (hretains.sublist.map _).nodup hpast
  have hperm := newestFirst_perm (run limit accesses)
  refine ⟨hretains, fun jobs hjobs => hjobs.unique hretains (List.Nodup.of_map _ hpast), identity_history h,
    fun id now change habsent => update_of_absent habsent now change,
    fun record hrecord now change => update_of_mem hids hrecord now change, hperm,
    hperm.nodup_iff.2 (List.Nodup.of_map _ hids), ?_⟩
  refine (pairwise_newestFirst _).imp fun horder => ?_
  rcases horder with htime | ⟨htime, hpair⟩
  · exact .inl htime
  · exact .inr ⟨htime, hpair.trans hretains.sublist⟩

private def queuedAt (id : String) (time : Timestamp) : JobRecord :=
  ⟨id, .text, .queued, "/dev/usb/lp0", time, time, none, none, none, none, none⟩

private def fail (job : JobRecord) : JobRecord := { job with status := .error }

/-- The clock goes back behind the first job and stands still behind the second one. -/
private def backwards : List Access :=
  [.create (queuedAt "a" 5), .create (queuedAt "b" 3), .list, .create (queuedAt "c" 3), .update "b" 9 fail, .get "b"]

private theorem sound_backwards : Sound backwards where
  distinct := by decide
  keeps := by
    intro id now change hmem job
    simp only [backwards, List.mem_cons, reduceCtorEq, false_or, or_false, Access.update.injEq,
      List.not_mem_nil] at hmem
    obtain ⟨-, -, rfl⟩ := hmem
    exact ⟨rfl, rfl⟩

/-- Of two jobs of one time the first goes, and neither its change nor another one brings it back. -/
theorem newest_held_backwards : Retains 2 (history backwards) (run 2 backwards).jobs ∧
    (run 2 backwards).jobs.map (·.id) = ["a", "c"] ∧ (run 2 backwards).update "b" 10 fail = run 2 backwards ∧
    (run 2 backwards).newestFirst.Perm (run 2 backwards).jobs := by
  obtain ⟨hretains, -, -, habsent, -, hperm, -⟩ := newest_held 2 sound_backwards
  have hids : (run 2 backwards).jobs.map (·.id) = ["a", "c"] := by decide
  refine ⟨hretains, hids, habsent "b" 10 fail fun job hjob hid => ?_, hperm⟩
  have hmem : "b" ∈ (run 2 backwards).jobs.map (·.id) := hid ▸ List.mem_map_of_mem hjob
  rw [hids] at hmem
  simp at hmem

end ThermalPress.Registry
