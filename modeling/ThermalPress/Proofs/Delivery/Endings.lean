import ThermalPress.Delivery.Transport
import ThermalPress.Proofs.Delivery.Cleanup

/-!
# What a caller is told

A caller that is told of no error may rely on it: the printer took the job's bytes and then the flush.  Whatever else
happens to a delivery, short of an order to stop the service, is told as one of its own two errors
(`Delivery.error?_cases`).  This is all that a print service needs to know of its transport (`Transport.Answers`), and
it holds of every printer that does not stop the service (`PrinterBehaviour.answers`).
-/

namespace ThermalPress

/-- The fault is an order to stop the service. -/
def Fault.stops : Fault → Bool
  | .stop .. => true
  | _ => false

/-- The event is a step that an order to stop the service interrupts. -/
def Event.stops : Event → Bool
  | .work (some fault) => fault.stops
  | _ => false

/-- Phases that, without a fault, both writes lie behind. -/
def Phase.isBehindWrites : Phase → Bool
  | .close | .release | .yieldTurn | .review | .settle _ | .report | .done => true
  | _ => false

namespace Delivery

/-- What the delivery has written, and what its caller has been told. -/
structure Honest (d : Delivery) : Prop where
  written : d.phase.isBehindWrites = true → d.fault = none → d.written = [d.job.payload, Command.flush]
  unstopped : ∀ fault, d.fault = some fault → fault.stops = false
  sent : ∀ bytes, d.ending = some (.sent bytes) → d.phase = .done ∧ d.fault = none
  told : ∀ fault, d.ending ≠ some (.stopped fault)

theorem honest_ofJob (job : PrintJob) (endpoint : String) : (ofJob job endpoint).Honest where
  written := by simp [ofJob, Phase.isBehindWrites]
  unstopped := by simp [ofJob]
  sent := by simp [ofJob]
  told := by simp [ofJob]

private theorem written_advance {d : Delivery} (hd : d.Sound) (h : d.Honest) (result : Option Fault) :
    (d.advance result).phase.isBehindWrites = true → (d.advance result).fault = none →
      (d.advance result).written = [d.job.payload, Command.flush] := by
  have hread := hd.read_eq
  have hbroken := hd.broken
  have hfirst := hd.written
  have hwritten := h.written
  cases hphase : d.phase <;> cases result <;>
    simp_all [Delivery.advance, failTo, Phase.isBehindWrites, Phase.written?]

private theorem unstopped_advance {d : Delivery} (hd : d.Sound) (h : d.Honest) {result : Option Fault}
    (hstops : (Event.work result).stops = false) :
    ∀ fault, (d.advance result).fault = some fault → fault.stops = false := by
  have hread := hd.read_eq
  have hunstopped := h.unstopped
  cases hphase : d.phase <;> cases result <;> simp_all [Delivery.advance, failTo, Event.stops]

private theorem Honest.advance {d : Delivery} (hd : d.Sound) (h : d.Honest) {result : Option Fault}
    (hstops : (Event.work result).stops = false) : (d.advance result).Honest where
  written := by
    rw [job_advance]
    exact written_advance hd h result
  unstopped := unstopped_advance hd h hstops
  sent := by
    intro bytes hending
    rw [ending_advance] at hending
    obtain ⟨hdone, hfault⟩ := h.sent bytes hending
    rw [advance_done hdone]
    exact ⟨hdone, hfault⟩
  told := by
    rw [ending_advance]
    exact h.told

/-- An outcome without an order to stop is not told as one. -/
private theorem endingOf_answer {d : Delivery} (h : d.Honest) :
    (∀ bytes, endingOf d.answer = .sent bytes → d.fault = none) ∧ ∀ fault, endingOf d.answer ≠ .stopped fault := by
  cases hfault : d.fault with
  | none => simp [answer, hfault, endingOf]
  | some fault =>
    have hstops := h.unstopped fault hfault
    cases fault with
    | delivery e => cases e <;> simp [answer, hfault, endingOf]
    | stop kind text => cases hstops
    | _ => simp [answer, hfault, endingOf]

private theorem Honest.collect {d : Delivery} (h : d.Honest) (hanswered : d.Answered) : d.collect.Honest := by
  unfold Delivery.collect
  split
  · next outcome _ houtcome =>
    rw [Answered, houtcome] at hanswered
    split at hanswered
    · next hdone =>
      obtain ⟨hsent, htold⟩ := endingOf_answer h
      rw [Option.some.injEq] at hanswered
      rw [hanswered]
      exact ⟨h.written, h.unstopped, fun bytes heq => ⟨hdone, hsent bytes (Option.some.inj heq)⟩,
        fun fault heq => htold fault (Option.some.inj heq)⟩
    · cases hanswered
  · exact h

private theorem Honest.expire {d : Delivery} (h : d.Honest) : d.expire.Honest := by
  unfold Delivery.expire
  split
  · exact h
  · exact ⟨h.written, h.unstopped, by simp, by simp⟩

theorem Honest.play {d : Delivery} (hd : d.Sound) (hanswered : d.Answered) (h : d.Honest) {events : List Event}
    (hstops : ∀ event ∈ events, event.stops = false) : (d.play events).Honest := by
  induction events generalizing d with
  | nil => exact h
  | cons event events ih =>
    have hrest : ∀ other ∈ events, other.stops = false := fun other hother =>
      hstops other (List.mem_cons_of_mem _ hother)
    refine ih (hd.handle event) (Answered.play hd hanswered [event]) ?_ hrest
    cases event with
    | work result => exact h.advance hd (hstops _ (List.mem_cons_self ..))
    | expire => exact h.expire
    | collect => exact h.collect hanswered

/-- The caller of a delivery that nothing stopped is told of no error, and then the printer took the job's bytes and the
flush, or of one of the delivery's own errors. -/
theorem error?_cases {job : PrintJob} {endpoint : String} {events : List Event}
    (hstops : ∀ event ∈ events, event.stops = false)
    (hended : ((ofJob job endpoint).play events).ending.isSome = true) :
    (((ofJob job endpoint).play events).error? = none ∧
        ((ofJob job endpoint).play events).written = [job.payload, Command.flush]) ∨
      ∃ e, ((ofJob job endpoint).play events).error? = some (.delivery e) := by
  have hsound := sound_ofJob job endpoint
  have hhonest := Honest.play hsound rfl (honest_ofJob job endpoint) hstops
  have hjob : ((ofJob job endpoint).play events).job = job := job_play hsound events
  generalize (ofJob job endpoint).play events = d at *
  obtain ⟨ending, hending⟩ := Option.isSome_iff_exists.1 hended
  cases ending with
  | sent bytes =>
    obtain ⟨hdone, hfault⟩ := hhonest.sent bytes hending
    left
    rw [← hjob]
    exact ⟨by simp [error?, hending], hhonest.written (by rw [hdone]; rfl) hfault⟩
  | stopped fault => exact absurd hending (hhonest.told fault)
  | _ => simp [error?, hending]

end Delivery

/-! ### Transports -/

/-- Whatever a transport makes of a job is a run of a delivery that nothing stops and whose caller is told something. -/
def Transport.Answers (transport : Transport) : Prop :=
  ∀ job endpoint, ∃ events, transport.deliver job endpoint = (Delivery.ofJob job endpoint).play events ∧
    (∀ event ∈ events, event.stops = false) ∧
    ((Delivery.ofJob job endpoint).play events).ending.isSome = true

/-- What a print service learns from its transport. -/
theorem Transport.Answers.error?_cases {transport : Transport} (h : transport.Answers) (job : PrintJob)
    (endpoint : String) : (transport.deliver job endpoint).job = job ∧
      (((transport.deliver job endpoint).error? = none ∧
          (transport.deliver job endpoint).written = [job.payload, Command.flush]) ∨
        ∃ e, (transport.deliver job endpoint).error? = some (.delivery e)) := by
  obtain ⟨events, hplay, hstops, hended⟩ := h job endpoint
  rw [hplay]
  exact ⟨Delivery.job_play (Delivery.sound_ofJob job endpoint) events, Delivery.error?_cases hstops hended⟩

namespace Delivery

/-- Steps whose results a printer gives are a run, in which only the delivery moves. -/
private theorem exists_play_runUntil (stop : Phase → Bool) (results : Phase → Option Fault) (fuel : Nat)
    (d : Delivery) : ∃ events, runUntil stop results fuel d = d.play events ∧
      ∀ event ∈ events, ∃ phase, event = .work (results phase) := by
  induction fuel generalizing d with
  | zero => exact ⟨[], rfl, by simp⟩
  | succ fuel ih =>
    unfold runUntil
    split
    · exact ⟨[], rfl, by simp⟩
    · obtain ⟨events, hrun, hevents⟩ := ih (d.advance (results d.phase))
      refine ⟨.work (results d.phase) :: events, hrun, ?_⟩
      intro event hevent
      rcases List.mem_cons.1 hevent with rfl | hevent
      · exact ⟨d.phase, rfl⟩
      · exact hevents event hevent

private theorem ending_play_work {d : Delivery} {events : List Event}
    (hwork : ∀ event ∈ events, ∃ result, event = .work result) : (d.play events).ending = d.ending := by
  induction events generalizing d with
  | nil => rfl
  | cons event events ih =>
    obtain ⟨result, rfl⟩ := hwork event (List.mem_cons_self ..)
    exact (ih fun other hother => hwork other (List.mem_cons_of_mem _ hother)).trans (ending_advance d result)

theorem isSome_ending_collect {d : Delivery} (h : d.outcome.isSome = true) :
    d.collect.ending.isSome = true := by
  obtain ⟨outcome, houtcome⟩ := Option.isSome_iff_exists.1 h
  cases hending : d.ending <;> simp [collect, hending, houtcome]

private theorem isSome_ending_expire (d : Delivery) : d.expire.ending.isSome = true := by
  cases hending : d.ending <;> simp [expire, hending]

end Delivery

/-- A printer whose faults do not stop the service answers, whether or not it makes the caller wait too long. -/
theorem PrinterBehaviour.answers {printer : PrinterBehaviour}
    (h : ∀ phase fault, printer.result phase = some fault → fault.stops = false) : printer.transport.Answers := by
  have hstops : ∀ {events : List Event}, (∀ event ∈ events, ∃ phase, event = .work (printer.result phase)) →
      ∀ event ∈ events, event.stops = false := by
    intro events hevents event hevent
    obtain ⟨phase, rfl⟩ := hevents event hevent
    cases hresult : printer.result phase with
    | none => rfl
    | some fault => exact h phase fault hresult
  intro job endpoint
  obtain ⟨first, hfirst, hworks⟩ : ∃ events,
      Delivery.untilExpiry job endpoint printer = (Delivery.ofJob job endpoint).play events ∧
        ∀ event ∈ events, ∃ phase, event = .work (printer.result phase) := by
    unfold Delivery.untilExpiry
    split <;> exact Delivery.exists_play_runUntil ..
  simp only [transport, Delivery.deliver, hfirst]
  split
  · next hdone =>
    refine ⟨first ++ [.collect], by rw [Delivery.play_append]; rfl, ?_, ?_⟩
    · simpa [or_imp, forall_and, Event.stops] using hstops hworks
    · rw [Delivery.play_append]
      exact Delivery.isSome_ending_collect (by rw [Delivery.outcome_of_done hdone]; rfl)
  · obtain ⟨last, hlast, hlastWorks⟩ := Delivery.exists_play_runUntil (fun _ => false) printer.result
      (Delivery.Phase.rank ((Delivery.ofJob job endpoint).play first).expire.phase)
      ((Delivery.ofJob job endpoint).play first).expire
    refine ⟨first ++ .expire :: last, by rw [Delivery.play_append]; exact hlast, ?_, ?_⟩
    · simpa [or_imp, forall_and, Event.stops] using ⟨hstops hworks, hstops hlastWorks⟩
    · rw [Delivery.play_append]
      have hwork : ∀ event ∈ last, ∃ result, event = .work result := fun event hevent =>
        let ⟨phase, hphase⟩ := hlastWorks event hevent
        ⟨_, hphase⟩
      show (((Delivery.ofJob job endpoint).play first).expire.play last).ending.isSome = true
      rw [Delivery.ending_play_work hwork]
      exact Delivery.isSome_ending_expire _

/-- A printer that takes everything at once answers, and its callers are told of no error. -/
theorem Transport.answers_sound : Transport.sound.Answers := by
  refine PrinterBehaviour.answers fun phase fault h => ?_
  cases phase <;> cases h

theorem Transport.error?_sound (job : PrintJob) (endpoint : String) :
    (Transport.sound.deliver job endpoint).error? = none := by
  simp [Transport.sound, PrinterBehaviour.transport, PrinterBehaviour.sound, PrinterBehaviour.result, Delivery.deliver,
    Delivery.untilExpiry, Delivery.run, Delivery.runUntil, Delivery.Phase.rank, Delivery.ofJob, Delivery.advance,
    Delivery.collect, Delivery.error?, Delivery.answer, Delivery.endingOf, SpoolBuffer.ofData, SpoolBuffer.create,
    SpoolBuffer.fill, SpoolBuffer.read, SpoolBuffer.release]

end ThermalPress
