import ThermalPress.Proofs.Jobs.Stages

/-!
# Histories of jobs

The statuses that the record of a job has shown (`Calls.history`) are an initial part of those that its call has come
through, and all of them while the record is there (`Seen`).  So the history of every job is one of the few that a
single call gives it, whatever other calls do meanwhile, a final status stays, and when a call has ended its record
says how (`Calls.follows_of_run`).
-/

namespace ThermalPress

/-- The statuses seen so far, with one more if it differs from the last one. -/
def note (seen : List JobStatus) : Option JobStatus → List JobStatus
  | none => seen
  | some status => if seen.getLast? = some status then seen else seen ++ [status]

private theorem note_of_grows {before after : List JobStatus} (h : Grows before after) {status : JobStatus}
    (hlast : after.getLast? = some status) : note before (some status) = after := by
  cases h with
  | same => rw [note, if_pos hlast]
  | next other hnew hopen =>
    obtain rfl : other = status := by simpa using hlast
    rw [note, if_neg fun hsame => hnew (List.mem_of_getLast? hsame)]

private theorem Grows.eq_of_final {before after : List JobStatus} (h : Grows before after)
    (hfinal : ∃ status ∈ before, status.isFinal = true) : after = before := by
  cases h with
  | same => rfl
  | next other hnew hopen =>
    obtain ⟨status, hmem, hstatus⟩ := hfinal
    rw [hopen status hmem] at hstatus
    cases hstatus

namespace Calls

def status? (calls : Calls) (id : String) : Option JobStatus := (calls.service.registry.get? id).map (·.status)

/-- The statuses that the record of a job has shown after all moves, behind those that were seen before. -/
def watch (id : String) : Calls → List JobStatus → List Move → List JobStatus
  | _, seen, [] => seen
  | calls, seen, move :: moves => watch id (calls.after move) (note seen ((calls.after move).status? id)) moves

/-- The statuses that the record of a job of a new service has shown. -/
def history (settings : Settings) (limit : Nat) (clock : Clock) (moves : List Move) (id : String) : List JobStatus :=
  watch id (start settings limit clock) [] moves

/-! ### What one move does -/

section Moves

variable {calls : Calls} (move : Move)

theorem created_le_after : calls.service.created ≤ (calls.after move).service.created := by
  cases move with
  | ask plan transport => exact Nat.le_refl _
  | setClock clock => exact Nat.le_refl _
  | goOn i =>
    cases hcall : calls.all[i]? with
    | none => exact Nat.le_of_eq (congrArg (·.service.created) (after_goOn_of_none hcall).symm)
    | some call =>
      rw [after_goOn hcall]
      exact (call.advance_steps calls.service).created.1

/-- A record that is there after a move was there before, or it is that of a new job. -/
theorem held_after {id : String} (hheld : ((calls.after move).service.registry.get? id).isSome = true) :
    (calls.service.registry.get? id).isSome = true ∨ id = Service.jobId (calls.service.created + 1) := by
  cases move with
  | ask plan transport => exact .inl hheld
  | setClock clock => exact .inl hheld
  | goOn i =>
    cases hcall : calls.all[i]? with
    | none =>
      rw [after_goOn_of_none hcall] at hheld
      exact .inl hheld
    | some call =>
      rw [after_goOn hcall] at hheld
      obtain ⟨record, hrecord, rfl⟩ := Registry.isSome_get?_iff.1 hheld
      rcases (call.advance_steps calls.service).held record hrecord with hold | hnew
      · exact .inl (Registry.isSome_get?_iff.2 hold)
      · exact .inr hnew

/-- A call with a job had it before a move, and has gone on by one status at most, or it has just got a new one. -/
theorem call_after {i : Nat} {call : Call} {id : String} (hcall : (calls.after move).all[i]? = some call)
    (hid : call.stage.id? = some id) :
    (∃ old, calls.all[i]? = some old ∧ old.stage.id? = some id ∧ Grows old.stage.path call.stage.path) ∨
      (id = Service.jobId (calls.service.created + 1) ∧ Grows [] call.stage.path) := by
  cases move with
  | setClock clock => exact .inl ⟨call, hcall, hid, .same⟩
  | ask plan transport =>
    rcases getElem?_ask hcall with hcall | rfl
    · exact .inl ⟨call, hcall, hid, .same⟩
    · cases hid
  | goOn j =>
    cases hold : calls.all[j]? with
    | none =>
      rw [after_goOn_of_none hold] at hcall
      exact .inl ⟨call, hcall, hid, .same⟩
    | some old =>
      rcases getElem?_goOn hold hcall with ⟨-, hcall⟩ | ⟨rfl, rfl⟩
      · exact .inl ⟨call, hcall, hid, .same⟩
      · have hsteps := old.advance_steps calls.service
        have hgrows := hsteps.grows
        rcases hsteps.created.2 id hid with holdId | ⟨hasked, hnew, -⟩
        · exact .inl ⟨old, hold, holdId, hgrows⟩
        · rw [hasked] at hgrows
          exact .inr ⟨hnew, hgrows⟩

/-- A call keeps its job, and goes on by one status at most. -/
theorem call_of_after {i : Nat} {call : Call} {id : String} (hcall : calls.all[i]? = some call)
    (hid : call.stage.id? = some id) :
    ∃ next, (calls.after move).all[i]? = some next ∧ next.stage.id? = some id ∧
      Grows call.stage.path next.stage.path := by
  have hlength := (List.getElem?_eq_some_iff.1 hcall).1
  cases move with
  | setClock clock => exact ⟨call, hcall, hid, .same⟩
  | ask plan transport => exact ⟨call, by rw [after, List.getElem?_append_left hlength, hcall], hid, .same⟩
  | goOn j =>
    cases hother : calls.all[j]? with
    | none =>
      rw [after_goOn_of_none hother]
      exact ⟨call, hcall, hid, .same⟩
    | some other =>
      rw [after_goOn hother]
      by_cases hij : j = i
      · subst hij
        rw [hcall, Option.some.injEq] at hother
        subst hother
        have hsteps := call.advance_steps calls.service
        exact ⟨_, List.getElem?_set_self hlength, hsteps.keeps_id hid, hsteps.grows⟩
      · exact ⟨call, by rw [List.getElem?_set_ne hij, hcall], hid, .same⟩

/-- A call that has come through a final status comes through no other one. -/
theorem path_run {i : Nat} {call : Call} {id : String} (hcall : calls.all[i]? = some call)
    (hid : call.stage.id? = some id) (hfinal : ∃ status ∈ call.stage.path, status.isFinal = true)
    (moves : List Move) :
    ∃ next, (calls.run moves).all[i]? = some next ∧ next.stage.id? = some id ∧
      next.stage.path = call.stage.path := by
  induction moves generalizing calls call with
  | nil => exact ⟨call, hcall, hid, rfl⟩
  | cons move moves ih =>
    obtain ⟨next, hnext, hnextId, hgrows⟩ := call_of_after move hcall hid
    have hsame := hgrows.eq_of_final hfinal
    obtain ⟨last, hlast, hlastId, hpath⟩ := ih hnext hnextId (hsame ▸ hfinal)
    exact ⟨last, hlast, hlastId, hpath.trans hsame⟩

end Moves

/-! ### What has been seen -/

/-- What has been seen of the record of a job: nothing before it was created, then an initial part of what its call has
come through, and all of this while the record is there. -/
structure Seen (calls : Calls) (id : String) (seen : List JobStatus) : Prop where
  fresh : ∀ n, calls.service.created < n → id = Service.jobId n → seen = []
  shown : ∀ (i : Nat) call, calls.all[i]? = some call → call.stage.id? = some id →
    seen <+: call.stage.path ∧ ((calls.service.registry.get? id).isSome = true → seen = call.stage.path)

section Seen

variable {settings : Settings} {calls : Calls} {id : String} {seen : List JobStatus}

theorem status?_eq_none (h : calls.Sound settings) {n : Nat} (hn : calls.service.created < n)
    (hid : id = Service.jobId n) : calls.status? id = none := by
  rw [status?, Option.map_eq_none_iff, ← Option.not_isSome_iff_eq_none, Registry.isSome_get?_iff]
  rintro ⟨record, hrecord, hrecordId⟩
  obtain ⟨m, hm, hnumber⟩ := h.numbered record hrecord
  have := Service.jobId_inj (hnumber.symm.trans (hrecordId.trans hid))
  omega

/-- What was seen before a move is what the call had come through before, also if it had no job then. -/
private theorem Seen.exists_path (h : calls.Sound settings) (hseen : calls.Seen id seen) {move : Move} {i : Nat}
    {call : Call} (hcall : (calls.after move).all[i]? = some call) (hid : call.stage.id? = some id) :
    ∃ path, Grows path call.stage.path ∧ seen <+: path ∧
      (((calls.after move).service.registry.get? id).isSome = true → seen = path) := by
  rcases call_after move hcall hid with ⟨old, hold, holdId, hgrows⟩ | ⟨hnew, hgrows⟩
  · obtain ⟨hpart, hall⟩ := hseen.shown i old hold holdId
    refine ⟨_, hgrows, hpart, fun hheld => ?_⟩
    rcases held_after move hheld with hheld | hnew
    · exact hall hheld
    · obtain ⟨n, hn, hnumber⟩ := h.known i old id hold holdId
      have := Service.jobId_inj (hnumber.symm.trans hnew)
      omega
  · have hnone := hseen.fresh _ (Nat.lt_succ_self _) hnew
    exact ⟨[], hgrows, hnone ▸ List.prefix_refl _, fun _ => hnone⟩

theorem Seen.after (h : calls.Sound settings) (hseen : calls.Seen id seen) (move : Move) :
    (calls.after move).Seen id (note seen ((calls.after move).status? id)) where
  fresh n hn hid := by
    rw [status?_eq_none (h.after move) hn hid]
    exact hseen.fresh n (Nat.lt_of_le_of_lt (created_le_after move) hn) hid
  shown i call hcall hid := by
    obtain ⟨path, hgrows, hpath, hall⟩ := hseen.exists_path h hcall hid
    cases hstatus : (calls.after move).status? id with
    | none =>
      refine ⟨hpath.trans hgrows.isPrefix, fun hheld => ?_⟩
      rw [status?, Option.map_eq_none_iff] at hstatus
      rw [hstatus] at hheld
      cases hheld
    | some status =>
      obtain ⟨record, hrecord, hsame⟩ := Option.map_eq_some_iff.1 hstatus
      obtain ⟨hmem, hrecordId⟩ := Registry.mem_of_get? hrecord
      have hfits := (h.after move).fits i call hcall record hmem (hrecordId ▸ hid)
      -- the record was there before as well, so nothing was missed
      have hnote : note seen (some status) = call.stage.path := by
        rw [hall (by rw [hrecord]; rfl)]
        exact note_of_grows hgrows (by rw [hfits.status, hsame])
      rw [hnote]
      exact ⟨List.prefix_refl _, fun _ => rfl⟩

theorem Seen.watch (h : calls.Sound settings) (hseen : calls.Seen id seen) (moves : List Move) :
    (calls.run moves).Seen id (watch id calls seen moves) := by
  -- on the moves; what is known of all calls carries what was seen of one
  induction moves generalizing calls seen with
  | nil => exact hseen
  | cons move moves ih => exact ih (h.after move) (hseen.after h move)

theorem seen_history (settings : Settings) (limit : Nat) (clock : Clock) (moves : List Move) (id : String) :
    ((start settings limit clock).run moves).Seen id (history settings limit clock moves id) := by
  refine Seen.watch (sound_start settings limit clock) ⟨fun _ _ _ => rfl, ?_⟩ moves
  simp [start]

end Seen

end Calls

/-! ### How a job ends -/

/-- The status and the error of the record of a call that has ended. -/
def closing : Except PrintError Receipt → JobStatus × Option String
  | .ok _ => (.success, none)
  | .error (.fault (.delivery (.timeout endpoint seconds message))) =>
    (.timeout, some (DeliveryError.timeout endpoint seconds message).message)
  | .error e => (.error, some e.message)

namespace Call

variable {call : Call} {settings : Settings} {record : JobRecord}

private theorem isFinal_of_faultStatus? {fault : Fault} {status : JobStatus}
    (h : Service.faultStatus? fault = some status) : status.isFinal = true := by
  unfold Service.faultStatus? at h
  split at h
  · obtain rfl := Option.some.inj h
    rfl
  · cases h
  · obtain rfl := Option.some.inj h
    rfl

/-- Once the transport has the job, its way is that of running. -/
private theorem path_isPrefix_of_handed {stage : Stage} {job : PrintJob} (h : stage.handed? = some job) :
    ∃ final : JobStatus, final.isFinal = true ∧ stage.path <+: [.queued, .running, final] := by
  cases stage with
  | asked | opened | unbuilt => cases h
  | running id job => exact ⟨.success, rfl, _, rfl⟩
  | undelivered id sent fault =>
    cases hstatus : Service.faultStatus? fault with
    | none => exact ⟨.success, rfl, [.success], by simp [Stage.path, hstatus]⟩
    | some status => exact ⟨status, isFinal_of_faultStatus? hstatus, [], by simp [Stage.path, hstatus]⟩
  | closed | looked | noted | returned => exact ⟨.success, rfl, List.prefix_refl _⟩

private theorem exists_handed_of_running {stage : Stage} (h : .running ∈ stage.path) :
    ∃ job, stage.handed? = some job := by
  cases stage with
  | asked | opened | unbuilt => simp [Stage.path] at h
  | running id job => exact ⟨job, rfl⟩
  | undelivered id sent | closed id sent | looked id sent | noted id sent | returned id sent => exact ⟨sent.job, rfl⟩

/-- A job that could not be built goes from the queue to the error, and any other one goes by the way of running. -/
theorem path_isPrefix (h : call.Honest settings) :
    match call.plan.product with
    | .ok _ => ∃ final : JobStatus, final.isFinal = true ∧ call.stage.path <+: [.queued, .running, final]
    | .error _ => call.stage.path <+: [.queued, .error] := by
  cases hhanded : call.stage.handed? with
  | some job =>
    obtain ⟨product, hproduct, -⟩ := h.handed hhanded
    rw [hproduct]
    exact path_isPrefix_of_handed hhanded
  | none =>
    obtain ⟨plan, transport, stage⟩ := call
    dsimp only
    cases hproduct : plan.product with
    | ok product =>
      refine ⟨.success, rfl, ?_⟩
      cases stage with
      | asked => exact List.nil_prefix
      | opened id => exact ⟨_, rfl⟩
      | unbuilt id e => cases hproduct.symm.trans h
      | running | undelivered | closed | looked | noted | returned => cases hhanded
    | error e =>
      cases stage with
      | asked => exact List.nil_prefix
      | opened id => exact ⟨_, rfl⟩
      | unbuilt id e => exact List.prefix_refl _
      | running | undelivered | closed | looked | noted | returned => cases hhanded

/-- While a job runs and afterwards, its record has the length of what the transport got. -/
theorem bytes_eq (hfits : call.stage.Fits call.plan record) (h : call.Honest settings)
    (hrunning : .running ∈ call.stage.path) :
    ∃ job product, call.stage.handed? = some job ∧ call.plan.product = .ok product ∧
      job.payload = product.payload ∧ record.bytes = some job.payload.length ∧
      ∀ delivery, call.stage.delivery? = some delivery →
        delivery = call.transport.deliver job settings.endpointName := by
  obtain ⟨job, hjob⟩ := exists_handed_of_running hrunning
  obtain ⟨product, hproduct, hpayload, hdelivery⟩ := h.handed hjob
  have hbytes : record.bytes = some job.payload.length := by
    rw [hfits.bytes, hjob]
    rfl
  exact ⟨job, product, hjob, hproduct, hpayload, hbytes, hdelivery⟩

theorem closing_eq (hfits : call.stage.Fits call.plan record) {result : Except PrintError Receipt}
    (hresult : call.stage.result? = some result)
    (hstop : ∀ kind text, result ≠ .error (.fault (.stop kind text))) :
    (record.status, record.error) = closing result := by
  obtain ⟨plan, transport, stage⟩ := call
  have hstatus := hfits.status
  have herror := hfits.error
  cases stage with
  | unbuilt id e =>
    obtain rfl := Option.some.inj hresult
    exact Prod.ext (Option.some.inj hstatus).symm herror
  | undelivered id sent fault =>
    obtain rfl := Option.some.inj hresult
    cases fault with
    | delivery e => cases e <;> exact Prod.ext (Option.some.inj hstatus).symm herror
    | stop kind text => exact absurd rfl (hstop kind text)
    | expired text | other kind text => exact Prod.ext (Option.some.inj hstatus).symm herror
  | returned id sent receipt =>
    obtain rfl := Option.some.inj hresult
    exact Prod.ext (Option.some.inj hstatus).symm herror
  | asked | opened | running | closed | looked | noted => cases hresult

end Call

namespace Calls

/-- What the history and the record of a job have to do with its call. -/
structure Follows (calls : Calls) (settings : Settings) (call : Call) (id : String) (history : List JobStatus) :
    Prop where
  /-- A job whose bytes could not be built never runs. -/
  shape : match call.plan.product with
    | .ok _ => ∃ final : JobStatus, final.isFinal = true ∧ history <+: [.queued, .running, final]
    | .error _ => history <+: [.queued, .error]
  shown : ∀ record, calls.service.registry.get? id = some record → history.getLast? = some record.status
  /-- From running on, the record has the length of what the transport got. -/
  bytes : ∀ record, calls.service.registry.get? id = some record → .running ∈ history →
    ∃ job product, call.stage.handed? = some job ∧ call.plan.product = .ok product ∧ job.payload = product.payload ∧
      record.bytes = some job.payload.length ∧ ∀ delivery, call.stage.delivery? = some delivery →
        delivery = call.transport.deliver job settings.endpointName
  /-- When the call has ended, short of an order to stop the service, the record says how. -/
  ended : ∀ record, calls.service.registry.get? id = some record → ∀ result, call.stage.result? = some result →
    (∀ kind text, result ≠ .error (.fault (.stop kind text))) → (record.status, record.error) = closing result
  final : ∀ record, calls.service.registry.get? id = some record → record.status.isFinal = true → ∀ more later,
    (calls.run more).service.registry.get? id = some later → later.status = record.status

theorem Sound.follows {settings : Settings} {calls : Calls} (h : calls.Sound settings) {i : Nat} {call : Call}
    {id : String} (hcall : calls.all[i]? = some call) (hid : call.stage.id? = some id) {seen : List JobStatus}
    (hseen : calls.Seen id seen) : calls.Follows settings call id seen := by
  obtain ⟨hpart, hall⟩ := hseen.shown i call hcall hid
  have hhonest := h.honest i call hcall
  have hfits : ∀ record, calls.service.registry.get? id = some record → call.stage.Fits call.plan record := by
    intro record hrecord
    obtain ⟨hmem, rfl⟩ := Registry.mem_of_get? hrecord
    exact h.fits i call hcall record hmem hid
  have hpath : ∀ record, calls.service.registry.get? id = some record → seen = call.stage.path :=
    fun record hrecord => hall (by rw [hrecord]; rfl)
  refine ⟨?_, ?_, ?_, ?_, ?_⟩
  · have hshape := call.path_isPrefix hhonest
    cases hproduct : call.plan.product with
    | ok product =>
      rw [hproduct] at hshape
      obtain ⟨final, hfinal, hinitial⟩ := hshape
      exact ⟨final, hfinal, hpart.trans hinitial⟩
    | error e =>
      rw [hproduct] at hshape
      exact hpart.trans hshape
  · intro record hrecord
    rw [hpath record hrecord]
    exact (hfits record hrecord).status
  · intro record hrecord hrunning
    rw [hpath record hrecord] at hrunning
    exact call.bytes_eq (hfits record hrecord) hhonest hrunning
  · intro record hrecord result hresult hstop
    exact call.closing_eq (hfits record hrecord) hresult hstop
  · intro record hrecord hfinal more later hlater
    have hstatus := (hfits record hrecord).status
    obtain ⟨next, hnext, hnextId, hsame⟩ := path_run hcall hid ⟨_, List.mem_of_getLast? hstatus, hfinal⟩ more
    obtain ⟨hmem, rfl⟩ := Registry.mem_of_get? hlater
    have hlast := ((h.run more).fits i next hnext later hmem hnextId).status
    rw [hsame, hstatus] at hlast
    exact (Option.some.inj hlast).symm

/-- Whatever calls come to a new service, and however their steps are mixed with each other and with settings of the
clock, every record is that of a call, and every job follows its call. -/
theorem follows_of_run (settings : Settings) (limit : Nat) (clock : Clock) (moves : List Move) :
    (∀ record ∈ ((start settings limit clock).run moves).service.registry.jobs,
      ∃ call ∈ ((start settings limit clock).run moves).all, call.stage.id? = some record.id) ∧
    ∀ call ∈ ((start settings limit clock).run moves).all, ∀ id, call.stage.id? = some id →
      ((start settings limit clock).run moves).Follows settings call id (history settings limit clock moves id) := by
  have hsound := (sound_start settings limit clock).run moves
  refine ⟨fun record hrecord => ?_, fun call hcall id hid => ?_⟩
  · obtain ⟨i, call, hcall, hid⟩ := hsound.owned record hrecord
    exact ⟨call, List.mem_of_getElem? hcall, hid⟩
  · obtain ⟨i, hcall⟩ := List.getElem?_of_mem hcall
    exact hsound.follows hcall hid (seen_history settings limit clock moves id)

/-- A call whose record goes when the third job comes, one whose printer hangs, and one that is not built. -/
private def mixed : List Move :=
  [.ask ⟨.text, none, none, none, .ok ⟨[0x41], none⟩⟩ .sound,
    .ask ⟨.text, none, none, none, .ok ⟨[0x42], none⟩⟩
      (PrinterBehaviour.transport { PrinterBehaviour.sound with hangsAt := some .connect }),
    .ask ⟨.text, none, none, none, .error (.encoding .nullInName)⟩ .sound,
    .goOn 0, .goOn 1, .goOn 1, .goOn 2, .goOn 1, .goOn 0, .goOn 2]

example : [1, 2, 3].map (fun n => history {} 2 ⟨0, 1⟩ mixed (Service.jobId n)) =
    [[.queued], [.queued, .running, .timeout], [.queued, .error]] := by
  decide +kernel

end Calls

end ThermalPress
