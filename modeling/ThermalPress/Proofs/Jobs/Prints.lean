import ThermalPress.Jobs.Service
import ThermalPress.Proofs.Delivery.Endings
import ThermalPress.Proofs.Jobs.Registry
import ThermalPress.Proofs.Text.HexDigits

/-!
# What comes of a print

The jobs of a service are numbered, and their identities tell the numbers (`Service.Numbered`), so a new job is none of
those that are recorded.  A print with room for its record either refuses what is blank, or adds one record, and then
the report, the record and the delivery agree on how it ended (`Service.Ends`).  All prints share one run
(`Service.run_ends`), and what each of them does around it is said once (`Service.Printing`), so that whatever holds of
that holds of every print (`Service.Printing.ends`).
-/

namespace ThermalPress.Service

theorem jobId_inj {m n : Nat} (h : jobId m = jobId n) : m = n := by
  have hdigits := String.ofList_injective h
  exact hexDigits_inj (List.append_cancel_right hdigits)

/-! ### Numbered jobs -/

/-- The identities of the recorded jobs tell numbers of jobs created so far. -/
def Numbered (service : Service) : Prop :=
  ∀ job ∈ service.registry.jobs, ∃ n ≤ service.created, job.id = jobId n

theorem numbered_ofSettings (settings : Settings) (limit : Nat) (clock : Clock) :
    (ofSettings settings limit clock).Numbered := by
  simp [Numbered, ofSettings, Registry.empty]

theorem Numbered.fresh {service : Service} (h : service.Numbered) :
    ∀ old ∈ service.registry.jobs, old.id ≠ jobId (service.created + 1) := by
  intro old hold heq
  obtain ⟨n, hn, hid⟩ := h old hold
  have := jobId_inj (hid.symm.trans heq)
  omega

/-- A change of records that leaves alone what a job is. -/
def KeepsJob (change : JobRecord → JobRecord) : Prop := ∀ job, (change job).id = job.id ∧ (change job).kind = job.kind

section Numbered

variable {service : Service} (h : service.Numbered)

include h

theorem Numbered.openJob (kind : JobKind) {fill : JobRecord → JobRecord} (hfill : KeepsJob fill) :
    (service.openJob kind fill).2.Numbered := by
  intro job hjob
  rcases List.mem_append.1 ((Registry.create_sublist ..).subset hjob) with hold | hnew
  · obtain ⟨n, hn, hid⟩ := h job hold
    exact ⟨n, Nat.le_succ_of_le hn, hid⟩
  · rw [List.mem_singleton.1 hnew]
    exact ⟨service.created + 1, Nat.le_refl _, (hfill _).1⟩

theorem Numbered.changeJob (id : String) (change : JobRecord → JobRecord) (hchange : KeepsJob change) :
    (service.changeJob id change).Numbered := by
  unfold Service.changeJob
  split
  · intro job hjob
    obtain ⟨old, hold, rfl⟩ := List.mem_map.1 hjob
    obtain ⟨n, hn, hid⟩ := h old hold
    refine ⟨n, hn, ?_⟩
    split
    · exact (hchange old).1.trans hid
    · exact hid
  · exact h

theorem Numbered.closeFailed (id : String) (fault : Fault) : (service.closeFailed id fault).Numbered := by
  unfold Service.closeFailed
  split
  · exact h.changeJob id _ fun job => ⟨rfl, rfl⟩
  · exact h

end Numbered

@[simp] theorem created_changeJob (service : Service) (id : String) (change : JobRecord → JobRecord) :
    (service.changeJob id change).created = service.created := by
  unfold Service.changeJob
  split <;> rfl

@[simp] theorem created_closeFailed (service : Service) (id : String) (fault : Fault) :
    (service.closeFailed id fault).created = service.created := by
  unfold Service.closeFailed
  split
  · exact created_changeJob ..
  · rfl

/-! ### One record more -/

/-- One record has come behind the others, of a job that none of them is of. -/
structure Added (before after : Service) (record : JobRecord) : Prop where
  jobs : after.registry.jobs = before.registry.jobs ++ [record]
  fresh : ∀ old ∈ before.registry.jobs, old.id ≠ record.id

section Added

variable {before after : Service} {record : JobRecord}

theorem Added.get? (h : Added before after record) : after.registry.get? record.id = some record :=
  Registry.get?_last h.jobs h.fresh

/-- A change of the new record is no change of another one. -/
theorem Added.change (h : Added before after record) (change : JobRecord → JobRecord) (hchange : KeepsJob change) :
    ∃ changed now, changed = { change record with updatedAt := now } ∧
      Added before (after.changeJob record.id change) changed ∧ changed.id = record.id ∧
      changed.kind = record.kind := by
  have hcontains : after.registry.contains record.id = true := by rw [Registry.contains, h.get?]; rfl
  refine ⟨{ change record with updatedAt := after.clock.read.1 }, after.clock.read.1, rfl, ⟨?_, ?_⟩, hchange record⟩
  · rw [changeJob, if_pos hcontains]
    exact Registry.update_last h.jobs h.fresh _ change
  · intro old hold
    exact (hchange record).1 ▸ h.fresh old hold

end Added

/-- With room for its record, a new job is added as it was filled in. -/
theorem added_openJob {service : Service} (h : service.Numbered) (hroom : service.registry.HasRoom)
    (kind : JobKind) {fill : JobRecord → JobRecord} (hfill : KeepsJob fill) :
    ∃ record, Added service (service.openJob kind fill).2 record ∧ record.id = (service.openJob kind fill).1 ∧
      record.kind = kind := by
  let opened : JobRecord := ⟨jobId (service.created + 1), kind, .queued, service.settings.portName,
    service.clock.read.1, service.clock.read.1, none, none, none, none, none⟩
  refine ⟨fill opened, ⟨congrArg Registry.jobs (Registry.create_of_room hroom _), ?_⟩, (hfill opened).1,
    (hfill opened).2⟩
  intro old hold
  rw [(hfill opened).1]
  exact h.fresh old hold

/-! ### Ends -/

/-- The report of a print, the record of its job and the delivery agree on how it ended.  The report gives the identity
of a printed job. -/
inductive Ends (before after : Service) (delivery : Option Delivery) : Except PrintError String → Prop where
  /-- What was to be printed is blank; there is no job. -/
  | blank (what : String) : after = before → delivery = none → Ends before after delivery (.error (.blank what))
  /-- The bytes of the job could not be built; nothing is delivered. -/
  | unbuilt (record : JobRecord) (e : JobError) : Added before after record → record.status = .error →
    record.error = some e.message → delivery = none → Ends before after delivery (.error (.job e))
  /-- The job could not be delivered. -/
  | undelivered (record : JobRecord) (e : DeliveryError) (d : Delivery) : Added before after record →
    faultStatus? (.delivery e) = some record.status → record.error = some e.message → delivery = some d →
    d.job.label = jobLabel record.kind record.id → Ends before after delivery (.error (.fault (.delivery e)))
  /-- The printer took the bytes of the job and the flush. -/
  | printed (record : JobRecord) (d : Delivery) : Added before after record → record.status = .success →
    record.bytes = some d.job.payload.length → delivery = some d → d.job.label = jobLabel record.kind record.id →
    d.written = [d.job.payload, Command.flush] → Ends before after delivery (.ok record.id)

/-- The errors of a delivery itself never leave a record as it is. -/
private theorem exists_faultStatus? (e : DeliveryError) : ∃ status, faultStatus? (.delivery e) = some status := by
  cases e <;> exact ⟨_, rfl⟩

section Closing

variable {before after : Service} {record : JobRecord} (h : Added before after record)

include h

/-- A job whose bytes could not be built is closed with that error. -/
private theorem Added.ends_unbuilt (e : JobError) :
    Ends before (after.changeJob record.id fun job => { job with status := .error, error := some e.message }) none
      (.error (.job e)) := by
  obtain ⟨closed, now, rfl, hclosed, -⟩ := h.change
    (fun job => { job with status := .error, error := some e.message }) fun _ => ⟨rfl, rfl⟩
  exact .unbuilt _ e hclosed rfl rfl rfl

variable {d : Delivery} (hlabel : d.job.label = jobLabel record.kind record.id)

include hlabel

/-- A job that could not be delivered is closed with the error of the delivery. -/
private theorem Added.ends_undelivered (e : DeliveryError) :
    Ends before (after.closeFailed record.id (.delivery e)) (some d) (.error (.fault (.delivery e))) := by
  obtain ⟨status, hstatus⟩ := exists_faultStatus? e
  obtain ⟨closed, now, rfl, hclosed, -⟩ := h.change
    (fun job => { job with status, error := some e.message }) fun _ => ⟨rfl, rfl⟩
  rw [closeFailed, hstatus]
  exact .undelivered _ e d hclosed hstatus rfl rfl hlabel

/-- A job that the printer took whole is closed with success. -/
private theorem Added.ends_printed (hbytes : record.bytes = some d.job.payload.length)
    (hwritten : d.written = [d.job.payload, Command.flush]) :
    Ends before (after.changeJob record.id fun job => { job with status := .success }) (some d) (.ok record.id) := by
  obtain ⟨closed, now, rfl, hclosed, -⟩ := h.change (fun job => { job with status := .success }) fun _ => ⟨rfl, rfl⟩
  have hends := Ends.printed _ d hclosed rfl hbytes rfl hlabel hwritten
  exact hends

end Closing

section Run

variable {α : Type} {service : Service} {fill : JobRecord → JobRecord} {build : String → Build α} {bytesOf : α → Bytes}
  {transport : Transport}

theorem Numbered.run (h : service.Numbered) (kind : JobKind) (hfill : KeepsJob fill) (timeout : Option Quantity) :
    (service.run kind fill timeout build bytesOf transport).1.Numbered := by
  have hopened := h.openJob kind hfill
  unfold Service.run
  split
  next id opened heq =>
  rw [heq] at hopened
  dsimp only
  split
  · exact hopened.changeJob id _ fun _ => ⟨rfl, rfl⟩
  · next product _ =>
    have hrunning := hopened.changeJob id
      (fun job => { job with status := .running, bytes := some (bytesOf product).length }) fun _ => ⟨rfl, rfl⟩
    split
    · exact hrunning.closeFailed id _
    · exact hrunning.changeJob id _ fun _ => ⟨rfl, rfl⟩

/-- Each run creates one job. -/
theorem created_run (kind : JobKind) (timeout : Option Quantity) :
    (service.run kind fill timeout build bytesOf transport).1.created = service.created + 1 := by
  unfold Service.run
  split
  next id opened heq =>
  have hopened : opened.created = service.created + 1 := by
    rw [openJob, Prod.mk.injEq] at heq
    rw [← heq.2]
  dsimp only
  split
  · rw [created_changeJob, hopened]
  · split
    · rw [created_closeFailed, created_changeJob, hopened]
    · rw [created_changeJob, created_changeJob, hopened]

/-- A run of a print with room for its record ends in one of the ways. -/
theorem run_ends (h : service.Numbered) (hroom : service.registry.HasRoom) (kind : JobKind) (hfill : KeepsJob fill)
    (timeout : Option Quantity) (hanswers : transport.Answers) :
    Ends service (service.run kind fill timeout build bytesOf transport).1
      (service.run kind fill timeout build bytesOf transport).2.2.1
      ((service.run kind fill timeout build bytesOf transport).2.1.map (·.1)) := by
  obtain ⟨record, hadded, hid, hkind⟩ := added_openJob h hroom kind hfill
  unfold Service.run
  split
  next id opened heq =>
  rw [heq] at hadded hid
  dsimp only at hadded hid ⊢
  subst hid hkind
  split
  · next e _ => exact hadded.ends_unbuilt e
  · next product _ =>
    obtain ⟨running, now, hrun, hrunning, hid, hkind⟩ := hadded.change
      (fun job => { job with status := .running, bytes := some (bytesOf product).length }) fun _ => ⟨rfl, rfl⟩
    have hbytes : running.bytes = some (bytesOf product).length := by rw [hrun]
    rw [← hid] at hrunning ⊢
    rw [← hkind]
    -- what became of the delivery decides the end; how the job came to run matters no more
    generalize opened.changeJob running.id _ = started at hrunning ⊢
    generalize hdelivered : transport.deliver _ _ = d
    obtain ⟨hjob, hends⟩ := hdelivered ▸ hanswers.error?_cases _ _
    have hlabel := congrArg PrintJob.label hjob
    have hpayload := congrArg PrintJob.payload hjob
    dsimp only at hlabel hpayload hends
    rw [← hpayload] at hbytes hends
    rcases hends with ⟨hnone, hwritten⟩ | ⟨e, he⟩
    · rw [hnone]
      exact hrunning.ends_printed hlabel hbytes hwritten
    · rw [he]
      exact hrunning.ends_undelivered hlabel e

end Run

/-! ### Prints -/

/-- What each print does: it refuses what is blank, or it runs a job, and what is known of a printed symbol is added to
the record then. -/
inductive Printing (service : Service) (transport : Transport) :
    Service → Option Delivery → Except PrintError String → Prop
  | blank (what : String) : Printing service transport service none (.error (.blank what))
  | run {α : Type} {kind : JobKind} {fill : JobRecord → JobRecord} {timeout : Option Quantity}
      {build : String → Build α} {bytesOf : α → Bytes}
      {done : Service × Except PrintError (String × α) × Option Delivery × List LogRecord} :
    service.run kind fill timeout build bytesOf transport = done → KeepsJob fill →
    Printing service transport done.1 done.2.2.1 (done.2.1.map (·.1))
  | reported {after : Service} {delivery : Option Delivery} {id : String} (report : SymbolReport) :
    Printing service transport after delivery (.ok id) →
    Printing service transport (after.changeJob id fun job => { job with symbol := some report }) delivery (.ok id)

section Printing

variable {service after : Service} {transport : Transport} {delivery : Option Delivery}
  {result : Except PrintError String}

theorem Printing.numbered (h : service.Numbered) (hprint : Printing service transport after delivery result) :
    after.Numbered := by
  induction hprint with
  | blank what => exact h
  | run hrun hfill =>
    subst hrun
    exact h.run _ hfill _
  | reported report _ ih => exact ih.changeJob _ _ fun _ => ⟨rfl, rfl⟩

theorem Printing.ends (h : service.Numbered) (hroom : service.registry.HasRoom) (hanswers : transport.Answers)
    (hprint : Printing service transport after delivery result) : Ends service after delivery result := by
  induction hprint with
  | blank what => exact .blank what rfl rfl
  | run hrun hfill =>
    subst hrun
    exact run_ends h hroom _ hfill _ hanswers
  | reported report _ ih =>
    cases ih with
    | printed record d hadded hstatus hbytes hdelivery hlabel hwritten =>
      obtain ⟨reported, now, rfl, hreported, -⟩ := hadded.change
        (fun job => { job with symbol := some report }) fun _ => ⟨rfl, rfl⟩
      have hends := Ends.printed _ d hreported hstatus hbytes hdelivery hlabel hwritten
      exact hends

end Printing

/-- A print, with its report. -/
def Prints (service : Service) (transport : Transport) (done : Service × PrintReport) : Prop :=
  Printing service transport done.1 done.2.delivery (done.2.result.map (·.id))

section Prints

variable (service : Service) (timeout : Option Quantity) (transport : Transport)

section Codecs

variable [Codecs]

end Codecs

end Prints

end ThermalPress.Service
