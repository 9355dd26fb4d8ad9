import ThermalPress.Proofs.Delivery.Runs

/-!
# Deliveries clean up

What a delivery takes, it gives back.  A run balances the steps that take something against those that give it back
(`Holding.countP_takes`), whatever fails on the way and whenever the caller's wait ends, so a delivery that is done
holds nothing any more (`cleanedUp_of_events`): its spool file is deleted, its connection is closed, its turn is given
up, and it has one outcome.
-/

namespace ThermalPress

namespace Phase

/-- Phases whose step can fail. -/
def canFail : Phase → Bool
  | .acquire | .create | .fill | .discard | .read | .connect | .writePayload | .writeFlush | .close | .release => true
  | _ => false

/-- Phases whose step deletes the spool file. -/
def deletes : Phase → Bool
  | .discard | .release => true
  | _ => false

end Phase

/-! ### What is held -/

/-- Something that a delivery has in some phases: a step that does not fail takes it, and a phase gives it back. -/
structure Holding where
  held : Phase → Bool
  takes : Taken → Bool
  givenBack : Phase
  balance : ∀ (phase : Phase) (result : Option Fault) (readable waiting : Bool),
    ((if takes (phase, result) then 1 else 0) + if held phase then 1 else 0) =
      (if phase = givenBack then 1 else 0) + if held (phase.after readable waiting result.isSome) then 1 else 0

namespace Holding

/-- The printer's turn. -/
def turn : Holding where
  held
    | .create | .fill | .discard | .read | .connect | .writePayload | .writeFlush | .close | .release
    | .yieldTurn => true
    | _ => false
  takes s := s = (.acquire, none)
  givenBack := .yieldTurn
  balance := by
    intro phase result readable waiting
    cases phase <;> cases result <;> cases readable <;> simp [Phase.after]

/-- The staged spool file. -/
def staged : Holding where
  held
    | .read | .connect | .writePayload | .writeFlush | .close | .release => true
    | _ => false
  takes s := s = (.fill, none)
  givenBack := .release
  balance := by
    intro phase result readable waiting
    cases phase <;> cases result <;> cases readable <;> simp [Phase.after]

/-- The connection to the printer. -/
def connection : Holding where
  held
    | .writePayload | .writeFlush | .close => true
    | _ => false
  takes s := s = (.connect, none)
  givenBack := .close
  balance := by
    intro phase result readable waiting
    cases phase <;> cases result <;> cases readable <;> simp [Phase.after]

/-- The outcome, which a delivery owes from the first. -/
def outcome : Holding where
  held phase := phase ≠ .done
  takes _ := false
  givenBack := .report
  balance := by
    intro phase result readable waiting
    cases phase <;> cases result <;> cases readable <;> simp [Phase.after]

/-- What is taken or held at first is given back or held in the end. -/
theorem countP_takes (holding : Holding) {d : Delivery} (hd : d.Sound) (events : List Event) :
    ((d.steps events).countP holding.takes + if holding.held d.phase then 1 else 0) =
      (d.steps events).countP (·.1 = holding.givenBack) + if holding.held (d.play events).phase then 1 else 0 := by
  refine Delivery.Sound.play_induction (motive := fun d steps d' =>
    (steps.countP holding.takes + if holding.held d.phase then 1 else 0) =
      steps.countP (·.1 = holding.givenBack) + if holding.held d'.phase then 1 else 0) ?_ ?_ ?_ hd events
  · intro d _
    simp
  · intro d result steps d' _ ih
    have hstep := holding.balance d.phase result d.buffer.read.toOption.isSome (d.state != .timedOut)
    rw [← Delivery.phase_advance] at hstep
    simp only [List.countP_cons, decide_eq_true_eq]
    omega
  · intro d state ending steps d' _ ih
    exact ih

/-- A step that is not taken twice is counted as often as it is taken. -/
private theorem countP_eq_ite_mem {steps : List Taken} (step : Taken) (h : steps.countP (·.1 = step.1) ≤ 1) :
    steps.countP (· = step) = if step ∈ steps then 1 else 0 := by
  have hle : steps.countP (· = step) ≤ steps.countP (·.1 = step.1) := by
    refine List.countP_mono_left fun s _ hs => ?_
    simp only [decide_eq_true_eq] at hs
    simp [hs]
  split
  · next hmem =>
    have hpos : 0 < steps.countP (· = step) := List.countP_pos_iff.2 ⟨step, hmem, by simp⟩
    omega
  · next hmem =>
    refine List.countP_eq_zero.2 fun s hs hstep => hmem ?_
    simp only [decide_eq_true_eq] at hstep
    rwa [← hstep]

/-- A delivery that is done has given back what it took, once. -/
theorem countP_givenBack (holding : Holding) {job : PrintJob} {endpoint : String} {events : List Event}
    (phase : Phase) (hphase : phase ≠ .done) (htakes : holding.takes = fun s => decide (s = (phase, none)))
    (hstart : holding.held .start = false) (hend : holding.held .done = false)
    (hdone : ((Delivery.ofJob job endpoint).play events).phase = .done) :
    ((Delivery.ofJob job endpoint).steps events).countP (·.1 = holding.givenBack) =
      if (phase, none) ∈ (Delivery.ofJob job endpoint).steps events then 1 else 0 := by
  have hsound := Delivery.sound_ofJob job endpoint
  have hbalance := holding.countP_takes hsound events
  have hfirst : (Delivery.ofJob job endpoint).phase = .start := rfl
  rw [hdone, hfirst, hstart, hend, htakes,
    countP_eq_ite_mem (phase, none) (Delivery.countP_phase_le_one hphase hsound events)] at hbalance
  exact hbalance.symm

end Holding

namespace Delivery

/-! ### What is counted -/

/-- What a delivery counts in its steps is their number. -/
private theorem tally_play (tally : Delivery → Nat) {counted : Taken → Bool}
    (hadvance : ∀ d : Delivery, d.Sound → ∀ result,
      tally (d.advance result) = tally d + if counted (d.phase, result) then 1 else 0)
    (hwait : ∀ (d : Delivery) state ending, tally { d with state, ending } = tally d)
    {d : Delivery} (hd : d.Sound) (events : List Event) :
    tally (d.play events) = tally d + (d.steps events).countP counted := by
  refine Sound.play_induction (motive := fun d steps d' => tally d' = tally d + steps.countP counted)
    ?_ ?_ ?_ hd events
  · intro d _
    simp
  · intro d result steps d' hd ih
    rw [ih, hadvance d hd result, List.countP_cons]
    omega
  · intro d state ending steps d' _ ih
    rw [ih, hwait]

theorem closes_play {d : Delivery} (hd : d.Sound) (events : List Event) :
    (d.play events).closes = d.closes + (d.steps events).countP (·.1 = .close) := by
  refine tally_play Delivery.closes ?_ (fun _ _ _ => rfl) hd events
  intro d hd result
  have hread := hd.read_eq
  cases hphase : d.phase <;> cases result <;> simp_all [advance, failTo]

theorem releases_play {d : Delivery} (hd : d.Sound) (events : List Event) :
    (d.play events).buffer.releases = d.buffer.releases + (d.steps events).countP (·.1 = .release) := by
  refine tally_play (fun d => d.buffer.releases) ?_ (fun _ _ _ => rfl) hd events
  intro d hd result
  have hread := hd.read_eq
  have hbuffer := hd.buffer
  cases hphase : d.phase <;> cases result <;> simp_all [advance, failTo, Phase.buffer?] <;> rfl

theorem refusals_play {d : Delivery} (hd : d.Sound) (events : List Event) :
    (d.play events).buffer.refusals =
      d.buffer.refusals + (d.steps events).countP (fun s => s.1.deletes && s.2.isSome) := by
  refine tally_play (fun d => d.buffer.refusals) ?_ (fun _ _ _ => rfl) hd events
  intro d hd result
  have hread := hd.read_eq
  have hbuffer := hd.buffer
  cases hphase : d.phase <;> cases result <;> simp_all [advance, failTo, Phase.buffer?, Phase.deletes] <;> rfl

/-! ### Faults and outcomes -/

/-- The fault of a step goes before those that the delivery has met. -/
theorem fault_advance {d : Delivery} (hd : d.Sound) (result : Option Fault) :
    (d.advance result).fault = (if d.phase.canFail then result else none).or d.fault := by
  have hread := hd.read_eq
  cases hphase : d.phase <;> cases result <;> simp_all [advance, failTo, Phase.canFail]

/-- A delivery ends without a fault if no step fails. -/
theorem fault_play_eq_none_iff {d : Delivery} (hd : d.Sound) (events : List Event) :
    (d.play events).fault = none ↔ d.fault = none ∧ ∀ s ∈ d.steps events, s.1.canFail = true → s.2 = none := by
  refine Sound.play_induction (motive := fun d steps d' =>
    d'.fault = none ↔ d.fault = none ∧ ∀ s ∈ steps, s.1.canFail = true → s.2 = none) ?_ ?_ ?_ hd events
  · intro d _
    simp
  · intro d result steps d' hd ih
    have hstep : (d.advance result).fault = none ↔ d.fault = none ∧ (d.phase.canFail = true → result = none) := by
      rw [fault_advance hd, Option.or_eq_none_iff, and_comm]
      cases d.phase.canFail <;> simp
    rw [ih, hstep, List.forall_mem_cons, and_assoc]
  · intro d state ending steps d' _ ih
    exact ih

/-- A delivery has its outcome as soon as it is done, and not before. -/
def Answered (d : Delivery) : Prop := d.outcome = if d.phase = .done then some d.answer else none

private theorem Answered.advance {d : Delivery} (hd : d.Sound) (h : d.Answered) (result : Option Fault) :
    (d.advance result).Answered := by
  have hread := hd.read_eq
  cases hphase : d.phase <;> cases result <;> simp_all [Answered, Delivery.advance, failTo, answer]

theorem Answered.play {d : Delivery} (hd : d.Sound) (h : d.Answered) (events : List Event) :
    (d.play events).Answered := by
  refine Sound.play_induction (motive := fun d _ d' => d.Answered → d'.Answered) ?_ ?_ ?_ hd events h
  · intro d _ h
    exact h
  · intro d result steps d' hd ih h
    exact ih (h.advance hd result)
  · intro d state ending steps d' _ ih h
    exact ih h

/-! ### The end of a delivery -/

section Done

variable {job : PrintJob} {endpoint : String} {events : List Event}

theorem outcome_of_done (hdone : ((ofJob job endpoint).play events).phase = .done) :
    ((ofJob job endpoint).play events).outcome = some (match ((ofJob job endpoint).play events).fault with
      | some fault => .raised fault
      | none => .sent job.payload.length) := by
  have hstart := sound_ofJob job endpoint
  have hanswered := Answered.play hstart rfl events
  rw [Answered, if_pos hdone, answer] at hanswered
  rw [hanswered]
  cases h : ((ofJob job endpoint).play events).fault with
  | some fault => rfl
  | none =>
    have hdata := (hstart.play events).data (by rw [hdone]; rfl) h
    rw [hdata, job_play hstart]
    rfl

theorem outcome_eq_sent_iff (hdone : ((ofJob job endpoint).play events).phase = .done) :
    ((ofJob job endpoint).play events).outcome = some (.sent job.payload.length) ↔
      ∀ s ∈ (ofJob job endpoint).steps events, s.1.canFail = true → s.2 = none := by
  have hfault := fault_play_eq_none_iff (sound_ofJob job endpoint) events
  rw [outcome_of_done hdone]
  cases h : ((ofJob job endpoint).play events).fault with
  | none => simpa using (hfault.1 h).2
  | some fault =>
    rw [h] at hfault
    simpa [ofJob] using hfault

/-- The system deletes what a delivery tells it to delete, so no file is left. -/
theorem files_of_done (hdone : ((ofJob job endpoint).play events).phase = .done)
    (hdeletes : ∀ s ∈ (ofJob job endpoint).steps events, s.1.deletes = true → s.2 = none) :
    ((ofJob job endpoint).play events).buffer.files = [] := by
  have hstart := sound_ofJob job endpoint
  refine (hstart.play events).deleted (by rw [hdone]; rfl) ?_
  rw [refusals_play hstart, List.countP_eq_zero.2]
  · rfl
  · intro s hs
    simpa using hdeletes s hs

end Done

/-- Everything that the delivery of a job took in some steps is given back, and it has its outcome. -/
structure CleanedUp (job : PrintJob) (steps : List Taken) (d : Delivery) : Prop where
  deleted : d.buffer.files = []
  released : d.buffer.releases = if (.fill, none) ∈ steps then 1 else 0
  closed : d.closes = if (.connect, none) ∈ steps then 1 else 0
  yielded : steps.countP (·.1 = .yieldTurn) = if (.acquire, none) ∈ steps then 1 else 0
  reported : steps.countP (·.1 = .report) = 1
  sent_iff : d.outcome = some (.sent job.payload.length) ↔ ∀ s ∈ steps, s.1.canFail = true → s.2 = none
  raised : d.outcome ≠ some (.sent job.payload.length) → ∃ fault, d.outcome = some (.raised fault)

/-- Whichever steps of a delivery fail, and whenever its caller gives up: if the system deletes the files that it is
told to, a delivery that is done has cleaned up, and it is done when it has taken all its steps. -/
theorem cleanedUp_of_events (job : PrintJob) (endpoint : String) (events : List Event)
    (hdeletes : ∀ s ∈ (ofJob job endpoint).steps events, s.1.deletes = true → s.2 = none) :
    (Phase.rank .start ≤ events.countP Event.isWork → ((ofJob job endpoint).play events).phase = .done) ∧
      (((ofJob job endpoint).play events).phase = .done →
        CleanedUp job ((ofJob job endpoint).steps events) ((ofJob job endpoint).play events)) := by
  have hstart := sound_ofJob job endpoint
  refine ⟨fun hlength => phase_play_eq_done hstart (by rwa [length_steps]), fun hdone => ?_⟩
  constructor
  · exact files_of_done hdone hdeletes
  · rw [releases_play hstart, ← Holding.staged.countP_givenBack .fill nofun rfl rfl rfl hdone]
    exact Nat.zero_add _
  · rw [closes_play hstart, ← Holding.connection.countP_givenBack .connect nofun rfl rfl rfl hdone]
    exact Nat.zero_add _
  · exact Holding.turn.countP_givenBack .acquire nofun rfl rfl rfl hdone
  · have hreported := Holding.outcome.countP_takes hstart events
    rw [hdone] at hreported
    simpa [Holding.outcome, ofJob] using hreported.symm
  · exact outcome_eq_sent_iff hdone
  · rw [outcome_of_done hdone]
    intro hsent
    cases h : ((ofJob job endpoint).play events).fault with
    | none => simp [h] at hsent
    | some fault => exact ⟨fault, rfl⟩

/-- The caller gives up while the job is written, and then the write fails and the connection cannot be closed. -/
theorem cleanedUp_write_and_close_fail :
    let job : PrintJob := ⟨[0x1B, 0x40], .whole 5, "receipt"⟩
    let events : List Event :=
      List.replicate 6 (.work none) ++ [.expire, .work (some (.other "OSError" "write")),
        .work (some (.other "OSError" "close")), .collect] ++ List.replicate 6 (.work none)
    let d := (ofJob job "file:printer").play events
    let steps := (ofJob job "file:printer").steps events
    (∀ s ∈ steps, s.1.deletes = true → s.2 = none) ∧ d.phase = .done ∧ CleanedUp job steps d ∧
      (Phase.connect, none) ∈ steps ∧ d.outcome = some (.raised (.other "OSError" "close")) := by
  intro job events d steps
  have hdeletes : ∀ s ∈ steps, s.1.deletes = true → s.2 = none := by decide
  have hdone : d.phase = .done := (cleanedUp_of_events job "file:printer" events hdeletes).1 (by decide)
  exact ⟨hdeletes, hdone, (cleanedUp_of_events job "file:printer" events hdeletes).2 hdone, by decide, by decide⟩

end Delivery

end ThermalPress
