import ThermalPress.Delivery.Machine

/-!
# What a step of a delivery keeps

Whatever steps of a delivery have failed so far, the phase that it is in tells what it holds (`Delivery.Sound`): which
spool file there is, and which bytes have been written.  A step keeps this (`Sound.advance`), and so do the moves of
the caller.  A job's bytes come out of its spool file as they went in (`SpoolBuffer.read_stage_ofData`), so what is
written is the job's own bytes, then the flush.
-/

namespace ThermalPress

/-! ### The spool file -/

namespace SpoolBuffer

@[simp] theorem read_stage_ofData (data : Bytes) : (ofData data).stage.read = .ok data := rfl

@[simp] theorem files_ofData (data : Bytes) : (ofData data).files = [] := rfl

@[simp] theorem files_discard_create (data : Bytes) : (ofData data).create.discard.files = [] := rfl

@[simp] theorem files_release_stage (data : Bytes) : (ofData data).stage.release.files = [] := rfl

@[simp] theorem refusals_refuse (buffer : SpoolBuffer) : buffer.refuse.refusals = buffer.refusals + 1 := rfl

end SpoolBuffer

/-! ### What a phase tells -/

namespace Phase

/-- The spool buffer of a delivery that has a file or has not made one yet. -/
def buffer? (data : Bytes) : Phase → Option SpoolBuffer
  | .start | .acquire | .create => some (.ofData data)
  | .fill | .discard => some (SpoolBuffer.ofData data).create
  | .read | .connect | .writePayload | .writeFlush | .close | .release => some (SpoolBuffer.ofData data).stage
  | _ => none

/-- What has been written up to a phase that only one way leads to. -/
def written? (data : Bytes) : Phase → Option (List Bytes)
  | .start | .acquire | .create | .fill | .discard | .read | .connect | .writePayload => some []
  | .writeFlush => some [data]
  | _ => none

/-- Phases that no fault leads to. -/
def isForward : Phase → Bool
  | .start | .acquire | .create | .fill | .read | .connect | .writePayload | .writeFlush => true
  | _ => false

/-- Phases that, without a fault, the reading of the spool file leads to. -/
def isBehindRead : Phase → Bool
  | .start | .acquire | .create | .fill | .discard | .read => false
  | _ => true

/-- The phase behind a step.  A spool file that cannot be read makes the reading fail. -/
def after (readable waiting failed : Bool) : Phase → Phase
  | .start => .acquire
  | .acquire => if failed then .review else .create
  | .create => if failed then .yieldTurn else .fill
  | .fill => if failed then .discard else .read
  | .discard => .yieldTurn
  | .read => if failed || !readable then .release else .connect
  | .connect => if failed then .release else .writePayload
  | .writePayload => if failed then .close else .writeFlush
  | .writeFlush => .close
  | .close => .release
  | .release => .yieldTurn
  | .yieldTurn => .review
  | .review => .settle waiting
  | .settle _ => .report
  | .report => .done
  | .done => .done

end Phase

namespace Delivery

/-- What the delivery's phase tells is so. -/
structure Sound (d : Delivery) : Prop where
  buffer : ∀ b ∈ d.phase.buffer? d.job.payload, d.buffer = b
  deleted : d.phase.buffer? d.job.payload = none → d.buffer.refusals = 0 → d.buffer.files = []
  unbroken : d.phase.isForward = true → d.fault = none
  broken : d.phase = .discard → d.fault ≠ none
  data : d.phase.isBehindRead = true → d.fault = none → d.data = d.job.payload
  written : ∀ w ∈ d.phase.written? d.job.payload, d.written = w
  block : d.written <+: [d.job.payload, Command.flush]

theorem sound_ofJob (job : PrintJob) (endpoint : String) : (ofJob job endpoint).Sound where
  buffer := by simp [ofJob, Phase.buffer?]
  deleted := by simp [ofJob, Phase.buffer?]
  unbroken := by simp [ofJob]
  broken := by simp [ofJob]
  data := by simp [ofJob, Phase.isBehindRead]
  written := by simp [ofJob, Phase.written?]
  block := List.nil_prefix

/-! ### Steps -/

theorem Sound.read_eq {d : Delivery} (hd : d.Sound) (hphase : d.phase = .read) :
    d.buffer.read = .ok d.job.payload := by
  have hbuffer : d.buffer = (SpoolBuffer.ofData d.job.payload).stage := hd.buffer _ (by simp [hphase, Phase.buffer?])
  rw [hbuffer, SpoolBuffer.read_stage_ofData]

/-- A step leaves the job, its endpoint and what the caller knows. -/
private theorem unmoved_advance (d : Delivery) (result : Option Fault) :
    (d.advance result).job = d.job ∧ (d.advance result).endpoint = d.endpoint ∧
      (d.advance result).ending = d.ending := by
  unfold advance
  split <;> first | exact ⟨rfl, rfl, rfl⟩ | (split <;> exact ⟨rfl, rfl, rfl⟩)

@[simp] theorem job_advance (d : Delivery) (result : Option Fault) : (d.advance result).job = d.job :=
  (unmoved_advance d result).1

@[simp] theorem endpoint_advance (d : Delivery) (result : Option Fault) :
    (d.advance result).endpoint = d.endpoint :=
  (unmoved_advance d result).2.1

@[simp] theorem ending_advance (d : Delivery) (result : Option Fault) : (d.advance result).ending = d.ending :=
  (unmoved_advance d result).2.2

theorem phase_advance (d : Delivery) (result : Option Fault) :
    (d.advance result).phase =
      d.phase.after d.buffer.read.toOption.isSome (d.state != .timedOut) result.isSome := by
  cases hphase : d.phase <;> cases result <;> simp [advance, hphase, failTo, Phase.after]
  -- Only the reading of the spool file depends on more than the phase and the result.
  cases d.buffer.read <;> simp [Except.toOption]

/-! Each field of `Sound` after a step, phase by phase. -/

section Fields

variable {d : Delivery} {result : Option Fault}

private theorem buffer_advance (hd : d.Sound) :
    ∀ b ∈ (d.advance result).phase.buffer? d.job.payload, (d.advance result).buffer = b := by
  have hread := hd.read_eq
  have hbuffer := hd.buffer
  cases hphase : d.phase <;> cases result <;> simp_all [advance, failTo, Phase.buffer?, SpoolBuffer.stage]

/-- A delivery that has no file any more has deleted it, or the system has refused to. -/
private theorem deleted_advance (hd : d.Sound) :
    (d.advance result).phase.buffer? d.job.payload = none →
      (d.advance result).buffer.refusals = 0 → (d.advance result).buffer.files = [] := by
  have hread := hd.read_eq
  have hbuffer := hd.buffer
  have hdeleted := hd.deleted
  cases hphase : d.phase <;> cases result <;> simp_all [advance, failTo, Phase.buffer?]

private theorem unbroken_advance (hd : d.Sound) :
    (d.advance result).phase.isForward = true → (d.advance result).fault = none := by
  have hread := hd.read_eq
  have hunbroken := hd.unbroken
  cases hphase : d.phase <;> cases result <;> simp_all [advance, failTo, Phase.isForward]

private theorem broken_advance (hd : d.Sound) :
    (d.advance result).phase = .discard → (d.advance result).fault ≠ none := by
  have hread := hd.read_eq
  cases hphase : d.phase <;> cases result <;> simp_all [advance, failTo]

private theorem data_advance (hd : d.Sound) :
    (d.advance result).phase.isBehindRead = true → (d.advance result).fault = none →
      (d.advance result).data = d.job.payload := by
  have hread := hd.read_eq
  have hbroken := hd.broken
  have hdata := hd.data
  cases hphase : d.phase <;> cases result <;> simp_all [advance, failTo, Phase.isBehindRead]

/-- The first write is the job's bytes, since nothing has gone wrong before it. -/
private theorem Sound.data_eq (hd : d.Sound) (hphase : d.phase = .writePayload) : d.data = d.job.payload :=
  hd.data (by simp [hphase, Phase.isBehindRead]) (hd.unbroken (by simp [hphase, Phase.isForward]))

private theorem written?_advance (hd : d.Sound) :
    ∀ w ∈ (d.advance result).phase.written? d.job.payload, (d.advance result).written = w := by
  have hread := hd.read_eq
  have hpayload := hd.data_eq
  have hwritten := hd.written
  cases hphase : d.phase <;> cases result <;> simp_all [advance, failTo, Phase.written?]

private theorem block_advance (hd : d.Sound) :
    (d.advance result).written <+: [d.job.payload, Command.flush] := by
  have hread := hd.read_eq
  have hpayload := hd.data_eq
  have hwritten := hd.written
  have hblock := hd.block
  cases hphase : d.phase <;> cases result <;> simp_all [advance, failTo, Phase.written?]

end Fields

/-- A step keeps what the phase tells, whether it fails or not. -/
theorem Sound.advance {d : Delivery} (hd : d.Sound) (result : Option Fault) : (d.advance result).Sound where
  buffer := by
    rw [job_advance]
    exact buffer_advance hd
  deleted := by
    rw [job_advance]
    exact deleted_advance hd
  unbroken := unbroken_advance hd
  broken := broken_advance hd
  data := by
    rw [job_advance]
    exact data_advance hd
  written := by
    rw [job_advance]
    exact written?_advance hd
  block := by
    rw [job_advance]
    exact block_advance hd

/-! ### Moves of the caller -/

/-- The caller has no hand in anything but the state that shows and the ending. -/
theorem expire_eq (d : Delivery) : ∃ state ending, d.expire = { d with state, ending } := by
  unfold expire
  split
  · exact ⟨d.state, d.ending, rfl⟩
  · exact ⟨.timedOut, some .expired, rfl⟩

theorem collect_eq (d : Delivery) : ∃ state ending, d.collect = { d with state, ending } := by
  unfold collect
  split
  · exact ⟨_, _, rfl⟩
  · exact ⟨d.state, d.ending, rfl⟩

theorem Sound.wait {d : Delivery} (hd : d.Sound) (state : DeliveryState) (ending : Option Ending) :
    Sound { d with state, ending } :=
  ⟨hd.buffer, hd.deleted, hd.unbroken, hd.broken, hd.data, hd.written, hd.block⟩

end Delivery

end ThermalPress
