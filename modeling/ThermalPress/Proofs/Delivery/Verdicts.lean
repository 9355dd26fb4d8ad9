import ThermalPress.Proofs.Delivery.Endings
import ThermalPress.Proofs.Delivery.States

/-!
# Callers that wait to the end

A caller whose own wait does not end is told of the outcome once the delivery is done, and by then the delivery has
settled (`Punctual.play`).  The state that shows and what the caller is told agree but in two cases: a delivery that
runs into a timeout, as one whose turn does not come, shows a failure, and an order to stop the service is passed on
(`agrees_iff`).

The fault that a delivery ends with follows from how its printer behaves: nothing is written or closed without a
connection, the flush is not written after a failed write, and a fault of closing goes before those of writing
(`PrinterBehaviour.fault?`).  The caller is told of it as a failure with its kind and its text, unless it is a device's
wait that ended, which is taken for the caller's own one (`told_of_inTime`).
-/

namespace ThermalPress

namespace Delivery

/-! ### The caller waits -/

/-- The state that a delivery settles on for a caller that waits. -/
def settled (d : Delivery) : DeliveryState := if d.fault.isSome then .failed else .completed

/-- The caller has not given up: it waits, or it was told of the outcome of a delivery that has settled. -/
structure Punctual (d : Delivery) : Prop where
  awaited : d.phase ≠ .settle false
  shown : d.phase = .report ∨ d.phase = .done → d.ending = none → d.state = d.settled
  told : ∀ ending, d.ending = some ending → d.phase = .done ∧ ending = endingOf d.answer ∧
    d.state = if ending = .expired then .timedOut else d.settled

theorem punctual_ofJob (job : PrintJob) (endpoint : String) : (ofJob job endpoint).Punctual where
  awaited := by simp [ofJob]
  shown := by simp [ofJob]
  told := by simp [ofJob]

private theorem Punctual.advance {d : Delivery} (hshown : d.Shown) (h : d.Punctual) (result : Option Fault) :
    (d.advance result).Punctual := by
  cases hending : d.ending with
  | some ending =>
    have hdone := (h.told ending hending).1
    rwa [advance_done hdone]
  | none =>
    have hwaiting : d.state ≠ .timedOut := fun hstate => by simpa [hending] using hshown.answered hstate
    constructor
    · -- only the look at the state leads there, and the state would have to tell of a caller that gave up
      rw [phase_advance]
      cases d.phase <;> simp only [Phase.after] <;> grind
    · intro hphase _
      have hfrom : (∃ keep, d.phase = .settle keep) ∨ d.phase = .report ∨ d.phase = .done := by
        rw [phase_advance] at hphase
        revert hphase
        cases d.phase <;> simp only [Phase.after] <;> grind
      rcases hfrom with ⟨keep, hsettle⟩ | hreport | hdone
      · cases keep with
        | false => exact absurd hsettle h.awaited
        | true => simp [Delivery.advance, hsettle, settled]
      · simpa [Delivery.advance, hreport, settled] using h.shown (.inl hreport) hending
      · rw [advance_done hdone]
        exact h.shown (.inr hdone) hending
    · simp [hending]

private theorem Punctual.collect {d : Delivery} (hanswered : d.Answered) (h : d.Punctual) : d.collect.Punctual := by
  unfold Delivery.collect
  split
  · next outcome hending houtcome =>
    rw [Answered, houtcome] at hanswered
    split at hanswered
    · next hdone =>
      obtain rfl : outcome = d.answer := Option.some.inj hanswered
      refine ⟨h.awaited, by simp, fun ending hsome => ?_⟩
      obtain rfl : endingOf d.answer = ending := Option.some.inj hsome
      refine ⟨hdone, rfl, ?_⟩
      rw [h.shown (.inr hdone) hending]
      rfl
    · cases hanswered
  · exact h

theorem Punctual.play {d : Delivery} (hsound : d.Sound) (hshown : d.Shown) (hanswered : d.Answered) (h : d.Punctual)
    {events : List Event} (hwaits : .expire ∉ events) : (d.play events).Punctual := by
  induction events generalizing d with
  | nil => exact h
  | cons event events ih =>
    obtain ⟨hevent, hrest⟩ : .expire ≠ event ∧ .expire ∉ events := by simpa using hwaits
    refine ih (hsound.handle event) (hshown.play [event]) (Answered.play hsound hanswered [event]) ?_ hrest
    cases event with
    | work result => exact h.advance hshown result
    | expire => exact absurd rfl hevent
    | collect => exact h.collect hanswered

end Delivery

/-! ### State and caller -/

/-- The fault is a timeout of a delivery. -/
def Fault.isTimeout : Fault → Bool
  | .delivery (.timeout ..) => true
  | _ => false

namespace Delivery

/-- The state that shows is the one that the caller is told of. -/
def Agrees (d : Delivery) : Prop :=
  (d.state = .completed ↔ ∃ bytes, d.ending = some (.sent bytes)) ∧
    (d.state = .failed ↔ ∃ endpoint reason, d.error? = some (.delivery (.failure endpoint reason))) ∧
    (d.state = .timedOut ↔ ∃ endpoint seconds message, d.error? = some (.delivery (.timeout endpoint seconds message)))

/-- What a caller that waits is told, by the fault that the delivery ends with. -/
private theorem Punctual.told_cases {d : Delivery} (h : d.Punctual) (hended : d.ending.isSome = true) :
    d.phase = .done ∧ match d.fault with
      | none => d.ending = some (.sent d.data.length) ∧ d.state = .completed
      | some (.expired _) => d.ending = some .expired ∧ d.state = .timedOut
      | some (.other kind text) => d.ending = some (.broken kind text) ∧ d.state = .failed
      | some (.stop kind text) => d.ending = some (.stopped (.stop kind text)) ∧ d.state = .failed
      | some (.delivery (.timeout endpoint seconds message)) =>
        d.ending = some (.busy (.timeout endpoint seconds message)) ∧ d.state = .failed
      | some (.delivery (.failure endpoint reason)) =>
        d.ending = some (.refused (.failure endpoint reason)) ∧ d.state = .failed := by
  obtain ⟨ending, hending⟩ := Option.isSome_iff_exists.1 hended
  obtain ⟨hdone, rfl, hstate⟩ := h.told ending hending
  refine ⟨hdone, ?_⟩
  rw [hending, hstate]
  cases hfault : d.fault with
  | none => simp [answer, settled, hfault, endingOf]
  | some fault =>
    cases fault with
    | delivery e => cases e <;> simp [answer, settled, hfault, endingOf]
    | _ => simp [answer, settled, hfault, endingOf]

/-- Unless the caller gives up, the state that shows when it is told is the last one, and the two agree exactly if the
delivery does not end with a timeout of its own or an order to stop.  With these it shows a failure, and the caller is
told of the fault itself. -/
theorem agrees_iff {job : PrintJob} {endpoint : String} {events : List Event} (hwaits : .expire ∉ events)
    (hended : ((ofJob job endpoint).play events).ending.isSome = true) :
    (∀ more, ((ofJob job endpoint).play (events ++ more)).state = ((ofJob job endpoint).play events).state) ∧
      (((ofJob job endpoint).play events).state = .completed ↔
        ∃ bytes, ((ofJob job endpoint).play events).ending = some (.sent bytes)) ∧
      (((ofJob job endpoint).play events).Agrees ↔
        ∀ fault, ((ofJob job endpoint).play events).outcome = some (.raised fault) →
          fault.isTimeout = false ∧ fault.stops = false) ∧
      ∀ fault, ((ofJob job endpoint).play events).outcome = some (.raised fault) →
        fault.isTimeout = true ∨ fault.stops = true →
          ((ofJob job endpoint).play events).state = .failed ∧
            ((ofJob job endpoint).play events).error? = some fault := by
  have hsound := sound_ofJob job endpoint
  have hshown := (shown_ofJob job endpoint).play events
  have hpunctual := (punctual_ofJob job endpoint).play hsound (shown_ofJob job endpoint) rfl hwaits
  have hanswered := Answered.play hsound rfl events
  simp only [play_append]
  generalize (ofJob job endpoint).play events = d at *
  obtain ⟨hdone, htold⟩ := hpunctual.told_cases hended
  rw [Answered, if_pos hdone, answer] at hanswered
  rw [hanswered]
  have hrests : d.state.isFinal = true → ∀ more, (d.play more).state = d.state := fun hfinal =>
    Rests.play hshown ⟨hfinal, hended, by rw [hdone]; rfl⟩
  cases hfault : d.fault with
  | none =>
    simp only [hfault] at htold
    refine ⟨hrests (by rw [htold.2]; rfl), ?_⟩
    simp [Agrees, error?, htold]
  | some fault =>
    simp only [hfault] at htold
    refine ⟨hrests ?_, ?_⟩
    · cases fault with
      | delivery e => cases e <;> rw [htold.2] <;> rfl
      | _ => rw [htold.2]; rfl
    · cases fault with
      | delivery e => cases e <;> simp [Agrees, error?, htold, Fault.isTimeout, Fault.stops]
      | _ => simp [Agrees, error?, htold, Fault.isTimeout, Fault.stops]

/-- A write that fails is shown as a failure, and the caller is told of one, although it has asked too soon before. -/
theorem agrees_iff_write_fails :
    let job : PrintJob := ⟨[0x1B, 0x40], .whole 5, "receipt"⟩
    let events : List Event :=
      List.replicate 6 (.work none) ++ [.collect, .work (some (.other "OSError" "paper jam"))] ++
        List.replicate 6 (.work none) ++ [.collect]
    let d := (ofJob job "file:printer").play events
    .expire ∉ events ∧ d.ending.isSome = true ∧ d.Agrees ∧ d.state = .failed ∧
      d.error? = some (.delivery (.failure "file:printer" "OSError: paper jam")) := by
  intro job events d
  have hwaits : .expire ∉ events := by decide
  have hended : d.ending.isSome = true := by decide
  have houtcome : d.outcome = some (.raised (.other "OSError" "paper jam")) := by decide
  have hagrees : d.Agrees := by
    refine (agrees_iff hwaits hended).2.2.1.2 fun fault hfault => ?_
    obtain rfl : .other "OSError" "paper jam" = fault := by
      simpa only [Option.some.injEq, Outcome.raised.injEq] using houtcome.symm.trans hfault
    exact ⟨rfl, rfl⟩
  exact ⟨hwaits, hended, hagrees, by decide, by decide⟩

/-- A delivery whose turn does not come shows a failure, while its caller, still waiting, is told of a timeout. -/
theorem not_agrees_of_busy :
    let job : PrintJob := ⟨[0x1B, 0x40], .whole 5, "receipt"⟩
    let busy : Fault := .delivery (.timeout "file:printer" (.whole 5) (some "Printer file:printer busy"))
    let events : List Event := [.work none, .work (some busy)] ++ List.replicate 3 (.work none) ++ [.collect]
    let d := (ofJob job "file:printer").play events
    .expire ∉ events ∧ d = (deliverBusy job "file:printer").collect ∧ d.state = .failed ∧
      d.error? = some busy ∧ ¬ d.Agrees := by
  intro job busy events d
  have hstate : d.state = .failed := by decide
  have herror : d.error? = some busy := by decide
  refine ⟨by decide, by decide, hstate, herror, fun hagrees => ?_⟩
  have htimedOut : d.state = .timedOut := hagrees.2.2.2 ⟨_, _, _, herror⟩
  rw [hstate] at htimedOut
  cases htimedOut

end Delivery

/-! ### Printers that answer in time -/

namespace PrinterBehaviour

/-- The fault that a delivery ends with if its caller's wait does not. -/
def fault? (printer : PrinterBehaviour) : Option Fault :=
  printer.connect.or (printer.close.or (printer.write.or printer.flush))

/-- The fault that a delivery to the printer has met when it comes to a phase. -/
def faultBy (printer : PrinterBehaviour) : Phase → Option Fault
  | .close => printer.write.or printer.flush
  | .release | .yieldTurn | .review | .settle _ | .report | .done => printer.fault?
  | _ => none

end PrinterBehaviour

namespace Delivery

/-- The delivery has gone the way that the printer's behaviour leads. -/
structure Follows (printer : PrinterBehaviour) (d : Delivery) : Prop where
  fault : d.fault = printer.faultBy d.phase
  connected : d.phase = .writePayload ∨ d.phase = .writeFlush ∨ d.phase = .close → printer.connect = none
  accepted : d.phase = .writeFlush → printer.write = none
  filled : d.phase ≠ .discard

theorem follows_ofJob (printer : PrinterBehaviour) (job : PrintJob) (endpoint : String) :
    Follows printer (ofJob job endpoint) where
  fault := rfl
  connected := by simp [ofJob]
  accepted := by simp [ofJob]
  filled := by simp [ofJob]

private theorem Follows.advance {printer : PrinterBehaviour} {d : Delivery} (hd : d.Sound) (h : Follows printer d) :
    Follows printer (d.advance (printer.result d.phase)) := by
  have hread := hd.read_eq
  obtain ⟨hfault, hconnected, haccepted, hfilled⟩ := h
  -- two phases lead to one place with a fault of the printer and to another one without
  cases hphase : d.phase with
  | connect =>
    cases hconnect : printer.connect <;> constructor <;>
      simp_all [fault_advance, phase_advance, Phase.after, Phase.canFail, PrinterBehaviour.result,
        PrinterBehaviour.faultBy, PrinterBehaviour.fault?]
  | writePayload =>
    cases hwrite : printer.write <;> constructor <;>
      simp_all [fault_advance, phase_advance, Phase.after, Phase.canFail, PrinterBehaviour.result,
        PrinterBehaviour.faultBy]
  | _ =>
    constructor <;>
      simp_all [fault_advance, phase_advance, Phase.after, Phase.canFail, PrinterBehaviour.result,
        PrinterBehaviour.faultBy, PrinterBehaviour.fault?, Except.toOption]

private theorem Follows.wait {printer : PrinterBehaviour} {d : Delivery} (h : Follows printer d)
    (state : DeliveryState) (ending : Option Ending) : Follows printer { d with state, ending } :=
  ⟨h.fault, h.connected, h.accepted, h.filled⟩

private theorem Follows.collect {printer : PrinterBehaviour} {d : Delivery} (h : Follows printer d) :
    Follows printer d.collect := by
  obtain ⟨state, ending, hsame⟩ := d.collect_eq
  rw [hsame]
  exact h.wait state ending

theorem Follows.play {printer : PrinterBehaviour} {d : Delivery} (hd : d.Sound) (h : Follows printer d)
    {events : List Event} (hresults : ∀ s ∈ d.steps events, s.2 = printer.result s.1) :
    Follows printer (d.play events) := by
  refine Sound.play_induction (motive := fun d steps d' =>
    Follows printer d → (∀ s ∈ steps, s.2 = printer.result s.1) → Follows printer d') ?_ ?_ ?_ hd events h hresults
  · intro d _ h _
    exact h
  · intro d result steps d' hd ih h hresults
    obtain ⟨hresult, hrest⟩ := List.forall_mem_cons.1 hresults
    have hresult : result = printer.result d.phase := hresult
    subst hresult
    exact ih (h.advance hd) hrest
  · intro d state ending steps d' _ ih h hresults
    exact ih (h.wait state ending) hresults

/-- All steps of a job's delivery are taken before its caller's wait ends, each with the result that the printer gives:
its turn comes, and the spool file is made and read. -/
structure InTime (printer : PrinterBehaviour) (job : PrintJob) (endpoint : String) (events : List Event) : Prop where
  waits : .expire ∉ events
  finished : Phase.rank .start ≤ events.countP Event.isWork
  results : ∀ s ∈ (ofJob job endpoint).steps events, s.2 = printer.result s.1

/-- Steps whose results a printer gives, as many as there is fuel, are a run without a move of the caller. -/
private theorem exists_play_of_fuel (results : Phase → Option Fault) (fuel : Nat) (d : Delivery) :
    ∃ events, runUntil (fun _ => false) results fuel d = d.play events ∧ .expire ∉ events ∧
      events.countP Event.isWork = fuel ∧ ∀ s ∈ d.steps events, s.2 = results s.1 := by
  induction fuel generalizing d with
  | zero => exact ⟨[], rfl, by simp, rfl, by simp [steps]⟩
  | succ fuel ih =>
    obtain ⟨events, hrun, hwaits, hcount, hresults⟩ := ih (d.advance (results d.phase))
    refine ⟨.work (results d.phase) :: events, hrun, by simpa using hwaits, ?_, ?_⟩
    · simp [List.countP_cons, hcount, Event.isWork]
    · simpa [steps] using hresults

/-- A printer that does not make the caller wait too long answers in time. -/
theorem exists_inTime {printer : PrinterBehaviour} (h : printer.hangsAt = none) (job : PrintJob) (endpoint : String) :
    ∃ events, InTime printer job endpoint events ∧
      deliver job endpoint printer = (ofJob job endpoint).play (events ++ [.collect]) := by
  obtain ⟨events, hrun, hwaits, hcount, hresults⟩ :=
    exists_play_of_fuel printer.result (Phase.rank .start) (ofJob job endpoint)
  have hfinished : Phase.rank .start ≤ events.countP Event.isWork := Nat.le_of_eq hcount.symm
  refine ⟨events, ⟨hwaits, hfinished, hresults⟩, ?_⟩
  have hexpiry : untilExpiry job endpoint printer = (ofJob job endpoint).play events := by
    simp only [untilExpiry, h]
    exact hrun
  have hdone : ((ofJob job endpoint).play events).phase = .done :=
    phase_play_eq_done (sound_ofJob job endpoint) (by rwa [length_steps])
  rw [deliver, hexpiry, if_pos hdone, play_append]
  rfl

/-- The caller of a delivery to a printer that answers in time is told of the fault that the printer's behaviour leads
to: of most as a failure with the kind and the text, of a device's wait that ended as if it was the caller's own, and of
the delivery's own errors and an order to stop as they are. -/
theorem told_of_inTime {printer : PrinterBehaviour} {job : PrintJob} {endpoint : String} {events : List Event}
    (h : InTime printer job endpoint events) :
    (printer.fault? = none →
        ((ofJob job endpoint).play (events ++ [.collect])).ending = some (.sent job.payload.length) ∧
          ((ofJob job endpoint).play (events ++ [.collect])).state = .completed) ∧
      (∀ kind text, printer.fault? = some (.other kind text) →
        ((ofJob job endpoint).play (events ++ [.collect])).error? =
            some (.delivery (.failure endpoint (kind ++ ": " ++ text))) ∧
          ((ofJob job endpoint).play (events ++ [.collect])).state = .failed) ∧
      (∀ text, printer.fault? = some (.expired text) →
        ((ofJob job endpoint).play (events ++ [.collect])).error? =
            some (.delivery (.timeout endpoint job.timeout none)) ∧
          ((ofJob job endpoint).play (events ++ [.collect])).state = .timedOut) ∧
      ∀ fault, printer.fault? = some fault → (∀ kind text, fault ≠ .other kind text) →
        (∀ text, fault ≠ .expired text) →
          ((ofJob job endpoint).play (events ++ [.collect])).error? = some fault ∧
            ((ofJob job endpoint).play (events ++ [.collect])).state = .failed := by
  have hstart := sound_ofJob job endpoint
  have hcollect : (ofJob job endpoint).play (events ++ [.collect]) = ((ofJob job endpoint).play events).collect :=
    play_append ..
  have hfinished : ((ofJob job endpoint).play events).phase = .done :=
    phase_play_eq_done hstart (by rw [length_steps]; exact h.finished)
  have hended : ((ofJob job endpoint).play (events ++ [.collect])).ending.isSome = true := by
    rw [hcollect]
    exact isSome_ending_collect (by rw [outcome_of_done hfinished]; rfl)
  have hpunctual := (punctual_ofJob job endpoint).play hstart (shown_ofJob job endpoint) rfl
    (show .expire ∉ events ++ [.collect] by simpa using h.waits)
  have hfollows : Follows printer ((ofJob job endpoint).play (events ++ [.collect])) := by
    rw [hcollect]
    exact ((follows_ofJob printer job endpoint).play hstart h.results).collect
  have hsound := hstart.play (events ++ [.collect])
  have hjob : ((ofJob job endpoint).play (events ++ [.collect])).job = job := job_play hstart _
  have hendpoint : ((ofJob job endpoint).play (events ++ [.collect])).endpoint = endpoint := endpoint_play hstart _
  generalize (ofJob job endpoint).play (events ++ [.collect]) = d at *
  obtain ⟨hdone, htold⟩ := hpunctual.told_cases hended
  have hfault : printer.fault? = d.fault := by rw [hfollows.fault, hdone]; rfl
  rw [hfault]
  refine ⟨fun hnone => ?_, fun kind text hother => ?_, fun text hexpired => ?_, fun fault hsome hother hexpired => ?_⟩
  · simp only [hnone] at htold
    rwa [hsound.data (by rw [hdone]; rfl) hnone, hjob] at htold
  · simp only [hother] at htold
    simp [error?, htold, hendpoint]
  · simp only [hexpired] at htold
    simp [error?, htold, hjob, hendpoint]
  · simp only [hsome] at htold
    cases fault with
    | delivery e => cases e <;> simp [error?, htold]
    | expired text => exact absurd rfl (hexpired text)
    | stop kind text => simp [error?, htold]
    | other kind text => exact absurd rfl (hother kind text)

/-- A write and the closing fail, and the caller is told of the closing. -/
theorem told_of_inTime_write_and_close_fail :
    let printer : PrinterBehaviour :=
      { PrinterBehaviour.sound with write := some (.expired "write"), close := some (.other "OSError" "close") }
    let job : PrintJob := ⟨[0x1B, 0x40], .whole 5, "receipt"⟩
    let events : List Event :=
      List.replicate 6 (.work none) ++ [.work printer.write, .work printer.close] ++ List.replicate 6 (.work none)
    let d := (ofJob job "file:printer").play (events ++ [.collect])
    InTime printer job "file:printer" events ∧ d = deliver job "file:printer" printer ∧
      d.error? = some (.delivery (.failure "file:printer" "OSError: close")) ∧ d.state = .failed := by
  intro printer job events d
  have hinTime : InTime printer job "file:printer" events := ⟨by decide, by decide, by decide⟩
  exact ⟨hinTime, by decide, (told_of_inTime hinTime).2.1 "OSError" "close" rfl⟩

/-- A printer whose connecting ends with a timeout of the device has its caller told that its own wait has ended. -/
theorem deliver_tells_device_timeout_as_expiry :
    let printer : PrinterBehaviour := { PrinterBehaviour.sound with connect := some (.expired "timed out") }
    let job : PrintJob := ⟨[0x1B, 0x40], .whole 5, "receipt"⟩
    let events : List Event :=
      List.replicate 5 (.work none) ++ [.work printer.connect] ++ List.replicate 8 (.work none)
    let d := (ofJob job "file:printer").play (events ++ [.collect])
    InTime printer job "file:printer" events ∧ d = deliver job "file:printer" printer ∧
      d.outcome = some (.raised (.expired "timed out")) ∧
      d.error? = some (.delivery (.timeout "file:printer" (.whole 5) none)) ∧
      d.error? ≠ some (.delivery (.failure "file:printer" (Fault.expiredKind ++ ": " ++ "timed out"))) := by
  intro printer job events d
  exact ⟨⟨by decide, by decide, by decide⟩, by decide, by decide, by decide, by decide⟩

end Delivery

end ThermalPress
