import ThermalPress.Proofs.Jobs.Calls

/-!
# Stages and records

At each stage of a call it is known what the record of its job says, while there is one (`Stage.Fits`).  A step of a
call changes its own record from what one stage says to what the next one says, and no other record (`Call.Steps`), so
this is known in every state of a service and its calls (`Calls.Sound`), however the steps of the calls are mixed and
whatever the registry has dropped meanwhile.
-/

namespace ThermalPress

def JobStatus.isFinal : JobStatus → Bool
  | .queued | .running => false
  | .success | .timeout | .error => true

namespace Stage

/-- The statuses that a record goes through up to a stage, if it is not dropped. -/
def path : Stage → List JobStatus
  | .asked => []
  | .opened _ => [.queued]
  | .unbuilt .. => [.queued, .error]
  | .running .. => [.queued, .running]
  | .undelivered _ _ fault => [.queued, .running] ++ (Service.faultStatus? fault).toList
  | .closed .. | .looked .. | .noted .. | .returned .. => [.queued, .running, .success]

def error? : Stage → Option String
  | .unbuilt _ e => some e.message
  | .undelivered _ _ fault => (Service.faultStatus? fault).map fun _ => fault.text
  | _ => none

/-- What the record tells of the symbol of a plan. -/
def report? (plan : Plan) : Stage → Option SymbolReport
  | .noted .. | .returned .. => plan.report?
  | _ => none

/-- What the record of a call says at a stage. -/
structure Fits (stage : Stage) (plan : Plan) (record : JobRecord) : Prop where
  status : stage.path.getLast? = some record.status
  bytes : record.bytes = stage.handed?.map (·.payload.length)
  error : record.error = stage.error?
  symbol : record.symbol = stage.report? plan

end Stage

/-- The statuses are the same, or there is one more, which is new, behind some that are not final. -/
inductive Grows (before : List JobStatus) : List JobStatus → Prop
  | same : Grows before before
  | next (status : JobStatus) : status ∉ before → (∀ s ∈ before, s.isFinal = false) →
    Grows before (before ++ [status])

theorem Grows.isPrefix {before after : List JobStatus} (h : Grows before after) : before <+: after := by
  cases h with
  | same => exact List.prefix_refl before
  | next status => exact List.prefix_append ..

private theorem grows_unbuilt : Grows [.queued] [.queued, .error] := .next .error (by decide) (by decide)

private theorem grows_running : Grows [.queued] [.queued, .running] := .next .running (by decide) (by decide)

private theorem grows_success : Grows [.queued, .running] [.queued, .running, .success] :=
  .next .success (by decide) (by decide)

private theorem grows_undelivered (fault : Fault) :
    Grows [.queued, .running] ([.queued, .running] ++ (Service.faultStatus? fault).toList) := by
  cases fault with
  | delivery e =>
    cases e with
    | timeout endpoint seconds message => exact .next .timeout (by decide) (by decide)
    | failure endpoint reason => exact .next .error (by decide) (by decide)
  | expired text => exact .next .error (by decide) (by decide)
  | stop kind text => exact .same
  | other kind text => exact .next .error (by decide) (by decide)

/-! ### One step of a call -/

/-- What a step of a call may do to the service and to the call: it creates the job, it changes the record from what
fits the old stage to what fits the new one, or it leaves the records alone. -/
inductive Call.Steps (call : Call) (service : Service) : Service × Stage → Prop
  | opens : call.stage = .asked → Steps call service ((service.openJob call.plan.kind call.plan.fill).2,
    .opened (Service.jobId (service.created + 1)))
  | changes (id : String) (change : JobRecord → JobRecord) (stage : Stage) : call.stage.id? = some id →
    stage.id? = some id → Grows call.stage.path stage.path → Service.KeepsJob change →
    (∀ record now, call.stage.Fits call.plan record → stage.Fits call.plan { change record with updatedAt := now }) →
    Steps call service (service.changeJob id change, stage)
  | rests (id : String) (stage : Stage) : call.stage.id? = some id → stage.id? = some id →
    Grows call.stage.path stage.path →
    (∀ record, call.stage.Fits call.plan record → stage.Fits call.plan record) → Steps call service (service, stage)

private theorem closeFailed_steps (service : Service) {call : Call} {id : String} {job : PrintJob}
    (hstage : call.stage = .running id job) (delivery : Delivery) (fault : Fault) :
    call.Steps service (service.closeFailed id fault, .undelivered id ⟨job, delivery⟩ fault) := by
  have hgrows : Grows call.stage.path (Stage.undelivered id ⟨job, delivery⟩ fault).path := by
    rw [hstage]
    exact grows_undelivered fault
  have hid : call.stage.id? = some id := by
    rw [hstage]
    rfl
  unfold Service.closeFailed
  cases hstatus : Service.faultStatus? fault with
  | none =>
    refine .rests id _ hid rfl hgrows fun record h => ?_
    rw [hstage] at h
    exact ⟨by simpa [Stage.path, hstatus] using h.status, h.bytes, by simpa [Stage.error?, hstatus] using h.error,
      h.symbol⟩
  | some status =>
    refine .changes id _ _ hid rfl hgrows (fun _ => ⟨rfl, rfl⟩) fun record now h => ?_
    rw [hstage] at h
    exact ⟨by simp [Stage.path, hstatus], h.bytes, by simp [Stage.error?, hstatus], h.symbol⟩

theorem Call.advance_steps (call : Call) (service : Service) : call.Steps service (call.advance service) := by
  obtain ⟨plan, transport, stage⟩ := call
  cases stage with
  | asked => exact .opens rfl
  | opened id =>
    simp only [Call.advance]
    split
    · next e _ =>
      refine .changes id _ _ rfl rfl grows_unbuilt (fun _ => ⟨rfl, rfl⟩) fun record now h => ?_
      exact ⟨rfl, h.bytes, rfl, h.symbol⟩
    · next product _ =>
      refine .changes id _ _ rfl rfl grows_running (fun _ => ⟨rfl, rfl⟩) fun record now h => ?_
      exact ⟨rfl, rfl, h.error, h.symbol⟩
  | unbuilt id e => exact .rests id _ rfl rfl .same fun record h => h
  | running id job =>
    simp only [Call.advance]
    split
    · next fault _ => exact closeFailed_steps service rfl _ fault
    · refine .changes id _ _ rfl rfl grows_success (fun _ => ⟨rfl, rfl⟩) fun record now h => ?_
      exact ⟨rfl, h.bytes, h.error, h.symbol⟩
  | undelivered id sent fault => exact .rests id _ rfl rfl .same fun record h => h
  | closed id sent =>
    simp only [Call.advance]
    split
    · refine .rests id _ rfl rfl .same fun record h => ?_
      exact ⟨h.status, h.bytes, h.error, h.symbol⟩
    · next hnone =>
      have hreport : plan.report? = none := by simpa using hnone
      refine .rests id _ rfl rfl .same fun record h => ?_
      exact ⟨h.status, h.bytes, h.error, h.symbol.trans hreport.symm⟩
  | looked id sent record =>
    refine .changes id _ _ rfl rfl .same (fun _ => ⟨rfl, rfl⟩) fun record now h => ?_
    exact ⟨h.status, h.bytes, h.error, rfl⟩
  | noted id sent record =>
    refine .rests id _ rfl rfl .same fun record h => ?_
    exact ⟨h.status, h.bytes, h.error, h.symbol⟩
  | returned id sent receipt => exact .rests id _ rfl rfl .same fun record h => h

namespace Call.Steps

variable {call : Call} {service : Service} {done : Service × Stage} (h : call.Steps service done)

include h

theorem settings_eq : done.1.settings = service.settings := by
  cases h with
  | opens => rfl
  | changes => exact Service.settings_changeJob ..
  | rests => rfl

theorem numbered (hnumbered : service.Numbered) : done.1.Numbered := by
  cases h with
  | opens => exact hnumbered.openJob _ fun _ => ⟨rfl, rfl⟩
  | changes id change stage _ _ _ hchange => exact hnumbered.changeJob id change hchange
  | rests => exact hnumbered

theorem grows : Grows call.stage.path done.2.path := by
  cases h with
  | opens hasked =>
    rw [hasked]
    exact .next .queued (by decide) (by decide)
  | changes _ _ _ _ _ hgrows => exact hgrows
  | rests _ _ _ _ hgrows => exact hgrows

theorem keeps_id {id : String} (hid : call.stage.id? = some id) : done.2.id? = some id := by
  cases h with
  | opens hasked =>
    rw [hasked] at hid
    cases hid
  | changes _ _ _ hbefore hafter => exact hafter.trans (hbefore.symm.trans hid)
  | rests _ _ hbefore hafter => exact hafter.trans (hbefore.symm.trans hid)

/-- The number of jobs does not fall, and it rises when the call gets an identity. -/
theorem created : service.created ≤ done.1.created ∧ ∀ id, done.2.id? = some id → call.stage.id? = some id ∨
    (call.stage = .asked ∧ id = Service.jobId (service.created + 1) ∧ done.1.created = service.created + 1) := by
  cases h with
  | opens hasked => exact ⟨Nat.le_succ _, fun id hid => .inr ⟨hasked, (Option.some.inj hid).symm, rfl⟩⟩
  | changes id change stage hbefore hafter =>
    rw [Service.created_changeJob]
    exact ⟨Nat.le_refl _, fun other hother => .inl (hbefore.trans (hafter.symm.trans hother))⟩
  | rests id stage hbefore hafter =>
    exact ⟨Nat.le_refl _, fun other hother => .inl (hbefore.trans (hafter.symm.trans hother))⟩

/-- Every record is one of before, of another job, or it is that of the call, as the call has come to be. -/
theorem records (hnumbered : service.Numbered)
    (hfits : ∀ record ∈ service.registry.jobs, call.stage.id? = some record.id → call.stage.Fits call.plan record) :
    ∀ record ∈ done.1.registry.jobs, (record ∈ service.registry.jobs ∧ done.2.id? ≠ some record.id) ∨
      (done.2.id? = some record.id ∧ done.2.Fits call.plan record) := by
  intro record hrecord
  cases h with
  | opens =>
    -- the registry may drop records for the new one, also that one itself
    rcases List.mem_append.1 ((Registry.create_sublist ..).subset hrecord) with hold | hnew
    · refine .inl ⟨hold, fun hid => hnumbered.fresh record hold (Option.some.inj hid).symm⟩
    · rw [List.mem_singleton.1 hnew]
      exact .inr ⟨rfl, rfl, rfl, rfl, rfl⟩
  | changes id change stage hbefore hafter _ hchange hstage =>
    obtain ⟨old, hold, ⟨hother, rfl⟩ | ⟨hown, now, rfl⟩⟩ := Service.mem_changeJob hrecord
    · exact .inl ⟨hold, fun hid => hother (Option.some.inj (hid.symm.trans hafter))⟩
    · rw [← hown] at hbefore hafter
      exact .inr ⟨hafter.trans (congrArg some (hchange old).1.symm), hstage old now (hfits old hold hbefore)⟩
  | rests id stage hbefore hafter _ hstage =>
    by_cases hown : record.id = id
    · rw [← hown] at hbefore hafter
      exact .inr ⟨hafter, hstage record (hfits record hrecord hbefore)⟩
    · exact .inl ⟨hrecord, fun hid => hown (Option.some.inj (hid.symm.trans hafter))⟩

/-- A step makes no record but that of a new job. -/
theorem held : ∀ record ∈ done.1.registry.jobs, (∃ old ∈ service.registry.jobs, old.id = record.id) ∨
    record.id = Service.jobId (service.created + 1) := by
  intro record hrecord
  cases h with
  | opens =>
    rcases List.mem_append.1 ((Registry.create_sublist ..).subset hrecord) with hold | hnew
    · exact .inl ⟨record, hold, rfl⟩
    · rw [List.mem_singleton.1 hnew]
      exact .inr rfl
  | changes id change stage _ _ _ hchange =>
    obtain ⟨old, hold, ⟨-, rfl⟩ | ⟨-, now, rfl⟩⟩ := Service.mem_changeJob hrecord
    · exact .inl ⟨record, hold, rfl⟩
    · exact .inl ⟨old, hold, (hchange old).1.symm⟩
  | rests => exact .inl ⟨record, hrecord, rfl⟩

end Call.Steps

/-- The job that the transport got is made of the bytes that were built. -/
def Plan.Hands (plan : Plan) (settings : Settings) (id : String) (job : PrintJob) : Prop :=
  ∃ product, plan.product = .ok product ∧ job = plan.printJob settings id product.payload

/-- The stage of a call tells what was built and what became of the delivery, and its receipt tells of the symbol. -/
def Call.Honest (call : Call) (settings : Settings) : Prop :=
  let delivered (id : String) (sent : Sent) : Prop := call.plan.Hands settings id sent.job ∧
    sent.delivery = call.transport.deliver sent.job settings.endpointName
  match call.stage with
  | .asked | .opened _ => True
  | .unbuilt _ e => call.plan.product = .error e
  | .running id job => call.plan.Hands settings id job
  | .undelivered id sent fault => delivered id sent ∧ sent.delivery.error? = some fault
  | .closed id sent | .looked id sent _ | .noted id sent _ => delivered id sent ∧ sent.delivery.error? = none
  | .returned id sent receipt => (delivered id sent ∧ sent.delivery.error? = none) ∧ receipt.id = id ∧
    receipt.symbol = call.plan.report? ∧ ∀ record, receipt.record = some record → record.symbol = call.plan.report?

theorem Call.Honest.advance {call : Call} {service : Service} (h : call.Honest service.settings)
    (hfits : ∀ id record, call.stage.id? = some id → service.registry.get? id = some record →
      call.stage.Fits call.plan record) :
    Call.Honest { call with stage := (call.advance service).2 } service.settings := by
  obtain ⟨plan, transport, stage⟩ := call
  cases stage with
  | asked => trivial
  | opened id =>
    simp only [Call.advance]
    split
    · next e he => exact he
    · next product hproduct => exact ⟨product, hproduct, rfl⟩
  | running id job =>
    simp only [Call.advance]
    split
    · next fault hfault => exact ⟨⟨h, rfl⟩, hfault⟩
    · next hnone => exact ⟨⟨h, rfl⟩, hnone⟩
  | closed id sent =>
    simp only [Call.advance]
    split
    · exact h
    · next hnone =>
      have hreport : plan.report? = none := by simpa using hnone
      refine ⟨h, rfl, hreport.symm, fun record hrecord => ?_⟩
      exact (hfits id record rfl hrecord).symbol.trans hreport.symm
  | looked id sent record => exact h
  | noted id sent record =>
    -- the record tells of the symbol by now, and one that was dropped was told of it in the meantime
    refine ⟨h, rfl, rfl, fun found hfound => ?_⟩
    rcases Option.or_eq_some_iff.1 hfound with hheld | ⟨-, hseen⟩
    · exact (hfits id found rfl hheld).symbol
    · obtain ⟨old, -, rfl⟩ := Option.map_eq_some_iff.1 hseen
      rfl
  | unbuilt id e => exact h
  | undelivered id sent fault => exact h
  | returned id sent receipt => exact h

/-- The transport was handed the bytes that were built, and what became of the delivery is its answer. -/
theorem Call.Honest.handed {call : Call} {settings : Settings} (h : call.Honest settings) {job : PrintJob}
    (hjob : call.stage.handed? = some job) :
    ∃ product, call.plan.product = .ok product ∧ job.payload = product.payload ∧
      ∀ delivery, call.stage.delivery? = some delivery →
        delivery = call.transport.deliver job settings.endpointName := by
  obtain ⟨plan, transport, stage⟩ := call
  have hbuilt : ∀ {id}, plan.Hands settings id job →
      ∃ product, plan.product = .ok product ∧ job.payload = product.payload := by
    rintro id ⟨product, hproduct, rfl⟩
    exact ⟨product, hproduct, rfl⟩
  cases stage with
  | asked | opened | unbuilt => cases hjob
  | running id handed =>
    obtain rfl := Option.some.inj hjob
    obtain ⟨product, hproduct, hpayload⟩ := hbuilt h
    refine ⟨product, hproduct, hpayload, fun delivery hnone => ?_⟩
    cases hnone
  | undelivered id sent fault | closed id sent | looked id sent record | noted id sent record =>
    obtain rfl := Option.some.inj hjob
    obtain ⟨⟨hhands, hdelivery⟩, -⟩ := h
    obtain ⟨product, hproduct, hpayload⟩ := hbuilt hhands
    exact ⟨product, hproduct, hpayload, fun _ hd => Option.some.inj hd ▸ hdelivery⟩
  | returned id sent receipt =>
    obtain rfl := Option.some.inj hjob
    obtain ⟨⟨⟨hhands, hdelivery⟩, -⟩, -⟩ := h
    obtain ⟨product, hproduct, hpayload⟩ := hbuilt hhands
    exact ⟨product, hproduct, hpayload, fun _ hd => Option.some.inj hd ▸ hdelivery⟩

/-! ### Every state -/

namespace Calls

/-- What is known of a service and its calls: every record is that of one call, it says what the stage of the call
says, and the stages tell what happened. -/
structure Sound (settings : Settings) (calls : Calls) : Prop where
  fixed : calls.service.settings = settings
  numbered : calls.service.Numbered
  known : ∀ (i : Nat) call id, calls.all[i]? = some call → call.stage.id? = some id →
    ∃ n ≤ calls.service.created, id = Service.jobId n
  apart : ∀ (i j : Nat) call other id, calls.all[i]? = some call → calls.all[j]? = some other →
    call.stage.id? = some id → other.stage.id? = some id → i = j
  owned : ∀ record ∈ calls.service.registry.jobs, ∃ (i : Nat) (call : Call), calls.all[i]? = some call ∧
    call.stage.id? = some record.id
  fits : ∀ (i : Nat) call, calls.all[i]? = some call → ∀ record ∈ calls.service.registry.jobs,
    call.stage.id? = some record.id → call.stage.Fits call.plan record
  honest : ∀ (i : Nat) call, calls.all[i]? = some call → call.Honest settings

theorem sound_start (settings : Settings) (limit : Nat) (clock : Clock) :
    (start settings limit clock).Sound settings where
  fixed := rfl
  numbered := Service.numbered_ofSettings settings limit clock
  known := by simp [start]
  apart := by simp [start]
  owned := by simp [start, Service.ofSettings, Registry.empty]
  fits := by simp [start]
  honest := by simp [start]

section Steps

variable {settings : Settings} {calls : Calls} (h : calls.Sound settings)

include h

theorem Sound.ask (plan : Plan) (transport : Transport) : (calls.after (.ask plan transport)).Sound settings := by
  have hold : ∀ (i : Nat) call id, (calls.after (.ask plan transport)).all[i]? = some call →
      call.stage.id? = some id → calls.all[i]? = some call := by
    intro i call id hcall hid
    rcases getElem?_ask hcall with hcall | rfl
    · exact hcall
    · cases hid
  refine ⟨h.fixed, h.numbered, ?_, ?_, ?_, ?_, ?_⟩
  · intro i call id hcall hid
    exact h.known i call id (hold i call id hcall hid) hid
  · intro i j call other id hcall hother hid hotherId
    exact h.apart i j call other id (hold i call id hcall hid) (hold j other id hother hotherId) hid hotherId
  · intro record hrecord
    obtain ⟨i, call, hcall, hid⟩ := h.owned record hrecord
    refine ⟨i, call, ?_, hid⟩
    rw [after, List.getElem?_append_left (List.getElem?_eq_some_iff.1 hcall).1, hcall]
  · intro i call hcall record hrecord hid
    exact h.fits i call (hold i call _ hcall hid) record hrecord hid
  · intro i call hcall
    rcases getElem?_ask hcall with hcall | rfl
    · exact h.honest i call hcall
    · trivial

section GoOn

variable {i : Nat} {call : Call} (hcall : calls.all[i]? = some call)

include hcall

/-- The identity of a call that has gone on is the one that it had, or one that no other call has. -/
private theorem Sound.id_ne {j : Nat} {other : Call} {id : String} (hj : j ≠ i)
    (hother : calls.all[j]? = some other) (hid : other.stage.id? = some id) :
    (call.advance calls.service).2.id? ≠ some id := by
  intro hsame
  rcases (call.advance_steps calls.service).created.2 id hsame with hcallId | ⟨-, hnew, -⟩
  · exact hj (h.apart j i other call id hother hcall hid hcallId)
  · obtain ⟨n, hn, hold⟩ := h.known j other id hother hid
    have hnumber := Service.jobId_inj (hold.symm.trans hnew)
    omega

private theorem Sound.known_goOn {j : Nat} {other : Call} {id : String}
    (hother : (calls.after (.goOn i)).all[j]? = some other) (hid : other.stage.id? = some id) :
    ∃ n ≤ (call.advance calls.service).1.created, id = Service.jobId n := by
  obtain ⟨hcreated, hidentity⟩ := (call.advance_steps calls.service).created
  have hknown : ∀ (k : Nat) third, calls.all[k]? = some third → third.stage.id? = some id →
      ∃ n ≤ (call.advance calls.service).1.created, id = Service.jobId n := by
    intro k third hthird hthirdId
    obtain ⟨n, hn, hold⟩ := h.known k third id hthird hthirdId
    exact ⟨n, Nat.le_trans hn hcreated, hold⟩
  rcases getElem?_goOn hcall hother with ⟨-, hother⟩ | ⟨-, rfl⟩
  · exact hknown j other hother hid
  · rcases hidentity id hid with hcallId | ⟨-, hnew, hnext⟩
    · exact hknown i call hcall hcallId
    · exact ⟨_, Nat.le_of_eq hnext.symm, hnew⟩

private theorem Sound.apart_goOn {j k : Nat} {other third : Call} {id : String}
    (hother : (calls.after (.goOn i)).all[j]? = some other) (hthird : (calls.after (.goOn i)).all[k]? = some third)
    (hid : other.stage.id? = some id) (hthirdId : third.stage.id? = some id) : j = k := by
  rcases getElem?_goOn hcall hother with ⟨hj, hother⟩ | ⟨hj, rfl⟩
  · rcases getElem?_goOn hcall hthird with ⟨-, hthird⟩ | ⟨-, rfl⟩
    · exact h.apart j k other third id hother hthird hid hthirdId
    · exact absurd hthirdId (h.id_ne hcall hj hother hid)
  · rcases getElem?_goOn hcall hthird with ⟨hk, hthird⟩ | ⟨hk, -⟩
    · exact absurd hid (h.id_ne hcall hk hthird hthirdId)
    · exact hj.trans hk.symm

private theorem Sound.owned_goOn {record : JobRecord}
    (hrecord : record ∈ (call.advance calls.service).1.registry.jobs) :
    ∃ (j : Nat) (other : Call), (calls.after (.goOn i)).all[j]? = some other ∧ other.stage.id? = some record.id := by
  have hsteps := call.advance_steps calls.service
  rw [after_goOn hcall]
  rcases hsteps.records h.numbered (h.fits i call hcall) record hrecord with ⟨hold, hothers⟩ | ⟨hown, -⟩
  · obtain ⟨j, other, hother, hid⟩ := h.owned record hold
    -- the record is not that of the call that went on, so its owner stayed as it was
    have hij : i ≠ j := by
      rintro rfl
      rw [hcall, Option.some.injEq] at hother
      subst hother
      exact hothers (hsteps.keeps_id hid)
    exact ⟨j, other, by rw [List.getElem?_set_ne hij, hother], hid⟩
  · exact ⟨i, _, List.getElem?_set_self (List.getElem?_eq_some_iff.1 hcall).1, hown⟩

private theorem Sound.fits_goOn {j : Nat} {other : Call} (hother : (calls.after (.goOn i)).all[j]? = some other)
    {record : JobRecord} (hrecord : record ∈ (call.advance calls.service).1.registry.jobs)
    (hid : other.stage.id? = some record.id) : other.stage.Fits other.plan record := by
  have hrecords := (call.advance_steps calls.service).records h.numbered (h.fits i call hcall) record hrecord
  rcases getElem?_goOn hcall hother with ⟨hj, hother⟩ | ⟨-, rfl⟩
  · rcases hrecords with ⟨hold, -⟩ | ⟨hown, -⟩
    · exact h.fits j other hother record hold hid
    · exact absurd hown (h.id_ne hcall hj hother hid)
  · rcases hrecords with ⟨-, hothers⟩ | ⟨-, hfits⟩
    · exact absurd hid hothers
    · exact hfits

private theorem Sound.honest_goOn {j : Nat} {other : Call}
    (hother : (calls.after (.goOn i)).all[j]? = some other) : other.Honest settings := by
  rcases getElem?_goOn hcall hother with ⟨-, hother⟩ | ⟨-, rfl⟩
  · exact h.honest j other hother
  · have hhonest := h.honest i call hcall
    rw [← h.fixed] at hhonest ⊢
    refine hhonest.advance fun id record hid hrecord => ?_
    obtain ⟨hmem, rfl⟩ := Registry.mem_of_get? hrecord
    exact h.fits i call hcall record hmem hid

end GoOn

theorem Sound.goOn (i : Nat) : (calls.after (.goOn i)).Sound settings := by
  cases hcall : calls.all[i]? with
  | none =>
    rw [after_goOn_of_none hcall]
    exact h
  | some call =>
    have hsteps := call.advance_steps calls.service
    have hservice : (calls.after (.goOn i)).service = (call.advance calls.service).1 := by rw [after_goOn hcall]
    refine ⟨?_, ?_, ?_, ?_, ?_, ?_, ?_⟩
    · rw [hservice]
      exact hsteps.settings_eq.trans h.fixed
    · rw [hservice]
      exact hsteps.numbered h.numbered
    · intro j other id hother hid
      rw [hservice]
      exact h.known_goOn hcall hother hid
    · intro j k other third id hother hthird hid hthirdId
      exact h.apart_goOn hcall hother hthird hid hthirdId
    · intro record hrecord
      rw [hservice] at hrecord
      exact h.owned_goOn hcall hrecord
    · intro j other hother record hrecord hid
      rw [hservice] at hrecord
      exact h.fits_goOn hcall hother hrecord hid
    · intro j other hother
      exact h.honest_goOn hcall hother

theorem Sound.after (move : Move) : (calls.after move).Sound settings := by
  cases move with
  | ask plan transport => exact h.ask plan transport
  | goOn i => exact h.goOn i
  | setClock clock => exact ⟨h.fixed, h.numbered, h.known, h.apart, h.owned, h.fits, h.honest⟩

theorem Sound.run (moves : List Move) : (calls.run moves).Sound settings := by
  induction moves generalizing calls with
  | nil => exact h
  | cons move moves ih => exact ih (h.after move)

end Steps

end Calls

end ThermalPress
