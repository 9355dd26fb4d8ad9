import Mathlib.Data.List.Chain
import ThermalPress.Proofs.Delivery.Runs

/-!
# The order of the states, and when one is final

A delivery's state is written by its own steps and by its caller.  The steps write idle, staged, transmitting and then
completed or failed, in this order, whatever the caller does in between (`HasCome.inOrder_states`).  They look at the
state only once, before the delivery settles, so a state that should be the last one is so only if no write is still
to come (`inOrder_states_and_stays_iff`): the caller must have been answered, and the delivery must be past
the last write that does not look.  A caller's wait that ends while the delivery is connecting is forgotten
(`state_play_forgets_expiry`).
-/

namespace ThermalPress

/-- The states that a delivery ends in. -/
def DeliveryState.isFinal : DeliveryState → Bool
  | .completed | .timedOut | .failed => true
  | _ => false

/-- The state that comes after another one when a delivery goes on; it can fail from every state that is not final. -/
inductive DeliveryState.Next : DeliveryState → DeliveryState → Prop
  | staged : Next .idle .staged
  | transmitting : Next .staged .transmitting
  | completed : Next .transmitting .completed
  | failed {state : DeliveryState} (hopen : state.isFinal = false) : Next state .failed

/-- Each state is the one before it, or comes after it. -/
def DeliveryState.InOrder (states : List DeliveryState) : Prop := states.IsChain fun s s' => s' = s ∨ s.Next s'

/-- A delivery in this phase will still write its state, if nothing fails, whatever the state is by then. -/
def Phase.willWriteState : Phase → Bool
  | .start | .acquire | .create | .fill | .read | .connect | .settle true => true
  | _ => false

/-- The state that the steps have come to in a phase that only one way leads to. -/
def Phase.reached? : Phase → Option DeliveryState
  | .start | .acquire | .create | .fill | .discard => some .idle
  | .read | .connect => some .staged
  | .writePayload | .writeFlush | .close => some .transmitting
  | _ => none

/-- The delivery has not settled yet. -/
def Phase.isOpen : Phase → Bool
  | .report | .done => false
  | _ => true

namespace Delivery

/-- The states that a delivery shows in the course of events. -/
def states : Delivery → List Event → List DeliveryState
  | d, [] => [d.state]
  | d, event :: events => d.state :: (d.handle event).states events

/-- The state that a step writes, if it writes one. -/
def writes? (d : Delivery) (result : Option Fault) : Option DeliveryState :=
  match d.phase, result with
  | .fill, none => some .staged
  | .connect, none => some .transmitting
  | .settle true, _ => some (if d.fault.isSome then .failed else .completed)
  | _, _ => none

theorem state_advance (d : Delivery) (result : Option Fault) :
    (d.advance result).state = (d.writes? result).getD d.state := by
  cases hphase : d.phase with
  | read =>
    cases result with
    | none => cases hread : d.buffer.read <;> simp [advance, writes?, hphase, hread, failTo]
    | some fault => simp [advance, writes?, hphase, failTo]
  | settle keep => cases keep <;> simp [advance, writes?, hphase]
  | _ => cases result <;> simp [advance, writes?, hphase, failTo]

/-- Only a phase in which the state will be written writes it. -/
theorem writes?_eq_none {d : Delivery} (h : d.phase.willWriteState = false) (result : Option Fault) :
    d.writes? result = none := by
  unfold writes?
  split <;> simp_all [Phase.willWriteState]

/-- What the state tells about the delivery and its caller. -/
structure Shown (d : Delivery) : Prop where
  answered : d.state = .timedOut → d.ending = some .expired
  settled : d.state = .completed ∨ d.state = .failed → d.phase = .report ∨ d.phase = .done

theorem shown_ofJob (job : PrintJob) (endpoint : String) : (ofJob job endpoint).Shown where
  answered := by simp [ofJob]
  settled := by simp [ofJob]

/-- A step that writes a final state settles the delivery. -/
private theorem settle_of_writes? {d : Delivery} {result : Option Fault} {state : DeliveryState}
    (h : d.writes? result = some state) (hfinal : state.isFinal = true) :
    d.phase = .settle true ∧ state ≠ .timedOut := by
  unfold writes? at h
  split at h <;> simp only [Option.some.injEq, reduceCtorEq] at h <;> subst h
  · cases hfinal
  · cases hfinal
  · refine ⟨‹_›, ?_⟩
    split <;> simp

private theorem Shown.advance {d : Delivery} (hd : d.Shown) (result : Option Fault) : (d.advance result).Shown := by
  constructor
  · rw [state_advance, ending_advance]
    cases hwrites : d.writes? result with
    | none => exact hd.answered
    | some state =>
      rintro rfl
      exact absurd rfl (settle_of_writes? hwrites rfl).2
  · rw [state_advance, phase_advance]
    intro hstate
    cases hwrites : d.writes? result with
    | none =>
      rw [hwrites, Option.getD_none] at hstate
      rcases hd.settled hstate with hphase | hphase <;> simp [hphase, Phase.after]
    | some state =>
      rw [hwrites, Option.getD_some] at hstate
      have hfinal : state.isFinal = true := by rcases hstate with rfl | rfl <;> rfl
      simp [(settle_of_writes? hwrites hfinal).1, Phase.after]

private theorem Shown.handle {d : Delivery} (hd : d.Shown) (event : Event) : (d.handle event).Shown := by
  cases event with
  | work result => exact hd.advance result
  | expire =>
    simp only [Delivery.handle, expire]
    split
    · exact hd
    · exact ⟨fun _ => rfl, by simp⟩
  | collect =>
    simp only [Delivery.handle, collect]
    split
    next hopen _ =>
      refine ⟨fun hstate => ?_, fun hstate => ?_⟩ <;> dsimp only at hstate <;> split at hstate
      · exact congrArg some ‹_›
      · rw [hd.answered hstate] at hopen
        cases hopen
      · simp at hstate
      · exact hd.settled hstate
    · exact hd

theorem Shown.play {d : Delivery} (hd : d.Shown) (events : List Event) : (d.play events).Shown := by
  induction events generalizing d with
  | nil => exact hd
  | cons event events ih => exact ih (hd.handle event)

/-! ### States in order -/

theorem states_eq_cons (d : Delivery) (events : List Event) : ∃ rest, d.states events = d.state :: rest := by
  cases events with
  | nil => exact ⟨[], rfl⟩
  | cons event events => exact ⟨(d.handle event).states events, rfl⟩

/-- The delivery's steps have come to a state, which it shows unless its caller has given up. -/
structure HasCome (d : Delivery) (state : DeliveryState) : Prop where
  own : state ≠ .timedOut
  shown : d.state = state ∨ d.state = .timedOut
  phase : ∀ s ∈ d.phase.reached?, state = s
  undecided : d.phase.isOpen = true → state.isFinal = false
  sent : d.phase.isOpen = true → d.phase.reached? = none → d.fault = none → state = .transmitting

theorem hasCome_ofJob (job : PrintJob) (endpoint : String) : (ofJob job endpoint).HasCome .idle := by
  constructor <;> simp [ofJob, Phase.reached?, DeliveryState.isFinal]

/-- A step that writes the state goes on to the next one. -/
theorem HasCome.next {d : Delivery} {state state' : DeliveryState} (hcome : d.HasCome state) {result : Option Fault}
    (h : d.writes? result = some state') : state.Next state' := by
  obtain ⟨-, -, hphase, hundecided, hsent⟩ := hcome
  unfold writes? at h
  split at h <;> simp only [Option.some.injEq, reduceCtorEq] at h <;> subst h
  next hfill =>
    rw [hphase .idle (by simp [hfill, Phase.reached?])]
    exact .staged
  next hconnect =>
    rw [hphase .staged (by simp [hconnect, Phase.reached?])]
    exact .transmitting
  next hsettle =>
    have hopen : d.phase.isOpen = true := by rw [hsettle]; rfl
    split
    · exact .failed (hundecided hopen)
    next hfault =>
      rw [hsent hopen (by rw [hsettle]; rfl) (by simpa using hfault)]
      exact .completed

theorem HasCome.advance {d : Delivery} (hd : d.Sound) {state : DeliveryState} (hcome : d.HasCome state)
    (result : Option Fault) : (d.advance result).HasCome ((d.writes? result).getD state) := by
  have hread := hd.read_eq
  have hunbroken := hd.unbroken
  have hbroken := hd.broken
  obtain ⟨hown, hshown, hphase, hundecided, hsent⟩ := hcome
  constructor
  · unfold writes?
    split <;> first | exact hown | simp
    split <;> simp
  · rw [state_advance]
    cases d.writes? result with
    | none => exact hshown
    | some state' => exact .inl rfl
  · cases hat : d.phase <;> cases result <;>
      simp_all [Delivery.advance, writes?, failTo, Phase.reached?]
  · cases hat : d.phase <;> cases result <;>
      simp_all [Delivery.advance, writes?, failTo, Phase.reached?, Phase.isOpen, DeliveryState.isFinal]
  · cases hat : d.phase <;> cases result <;>
      simp_all [Delivery.advance, writes?, failTo, Phase.reached?, Phase.isOpen, Phase.isForward]

theorem HasCome.handle {d : Delivery} (hd : d.Sound) {state : DeliveryState} (hcome : d.HasCome state) (event : Event) :
    (d.handle event).HasCome state ∨
      (d.handle event).HasCome (d.handle event).state ∧ state.Next (d.handle event).state := by
  cases event with
  | work result =>
    have hnext := hcome.advance hd result
    cases hwrites : d.writes? result with
    | none =>
      rw [hwrites, Option.getD_none] at hnext
      exact .inl hnext
    | some state' =>
      have hstate : (d.handle (.work result)).state = state' := by
        rw [Delivery.handle, state_advance, hwrites, Option.getD_some]
      rw [hwrites, Option.getD_some] at hnext
      rw [hstate]
      exact .inr ⟨hnext, hcome.next hwrites⟩
  | expire =>
    refine .inl ?_
    simp only [Delivery.handle, expire]
    split
    · exact hcome
    · exact ⟨hcome.own, .inr rfl, hcome.phase, hcome.undecided, hcome.sent⟩
  | collect =>
    refine .inl ?_
    simp only [Delivery.handle, collect]
    split
    · refine ⟨hcome.own, ?_, hcome.phase, hcome.undecided, hcome.sent⟩
      dsimp only
      split
      · exact .inr rfl
      · exact hcome.shown
    · exact hcome

private theorem HasCome.inOrder_cons {d : Delivery} {state : DeliveryState} (hcome : d.HasCome state)
    {rest : List DeliveryState} (hrest : DeliveryState.InOrder (state :: rest.filter (· ≠ .timedOut))) :
    DeliveryState.InOrder (state :: (d.state :: rest).filter (· ≠ .timedOut)) := by
  have hown := hcome.own
  rcases hcome.shown with h | h
  · simpa [h, hown, DeliveryState.InOrder] using hrest
  · simpa [h] using hrest

/-- The states that a delivery shows come in order, but for the mark of a caller that has given up. -/
theorem HasCome.inOrder_states {d : Delivery} (hd : d.Sound) {state : DeliveryState} (hcome : d.HasCome state)
    (events : List Event) : DeliveryState.InOrder (state :: (d.states events).filter (· ≠ .timedOut)) := by
  induction events generalizing d state with
  | nil => exact hcome.inOrder_cons (List.isChain_singleton state)
  | cons event events ih =>
    refine hcome.inOrder_cons ?_
    rcases hcome.handle hd event with hsame | ⟨hcome', hnext⟩
    · exact ih (hd.handle event) hsame
    · have hrest := ih (hd.handle event) hcome'
      obtain ⟨rest, hstates⟩ := (d.handle event).states_eq_cons events
      rw [hstates, List.filter_cons_of_pos (by simpa using hcome'.own)] at hrest ⊢
      exact List.isChain_cons_cons.2 ⟨.inr hnext, hrest.of_cons⟩

/-! ### States that stay -/

/-- Nothing is going to write the state any more. -/
structure Rests (d : Delivery) : Prop where
  final : d.state.isFinal = true
  answered : d.ending.isSome = true
  passed : d.phase.willWriteState = false

/-- A delivery whose caller has been answered hears no more of it. -/
theorem handle_of_answered {d : Delivery} (h : d.ending.isSome = true) {event : Event} (hwork : event.isWork = false) :
    d.handle event = d := by
  obtain ⟨ending, hending⟩ := Option.isSome_iff_exists.1 h
  cases event with
  | work result => cases hwork
  | expire => simp [handle, expire, hending]
  | collect => simp [handle, collect, hending]

private theorem Rests.advance {d : Delivery} (hd : d.Shown) (hrests : d.Rests) (result : Option Fault) :
    (d.advance result).state = d.state ∧ (d.advance result).Rests := by
  have hstate : (d.advance result).state = d.state := by
    rw [state_advance, writes?_eq_none hrests.passed, Option.getD_none]
  refine ⟨hstate, ⟨by rw [hstate]; exact hrests.final, by rw [ending_advance]; exact hrests.answered, ?_⟩⟩
  have hpassed := hrests.passed
  have hsettled := hd.settled
  have hfinal := hrests.final
  rw [phase_advance]
  cases hphase : d.phase with
  | review =>
    -- The delivery has not settled, so it is the caller that has given up, and the look at the state sees that.
    cases hstate : d.state <;> simp_all [DeliveryState.isFinal, Phase.after, Phase.willWriteState]
  | settle keep => rfl
  | _ => cases result <;> simp_all [Phase.after, Phase.willWriteState]

theorem Rests.play {d : Delivery} (hd : d.Shown) (hrests : d.Rests) (events : List Event) :
    (d.play events).state = d.state := by
  induction events generalizing d with
  | nil => rfl
  | cons event events ih =>
    cases hwork : event.isWork with
    | true =>
      obtain ⟨result, rfl⟩ : ∃ result, event = .work result := by
        cases event <;> simp_all [Event.isWork]
      obtain ⟨hstate, hnext⟩ := hrests.advance hd result
      exact (ih (hd.advance result) hnext).trans hstate
    | false =>
      have hsame := handle_of_answered hrests.answered hwork
      have hrest := ih hd hrests
      rw [Delivery.play, List.foldl_cons, hsame]
      exact hrest

/-- Steps that do not fail, up to the next write of the state. -/
private def stepsToWrite : Phase → List Event
  | .start => List.replicate 4 (.work none)
  | .acquire => List.replicate 3 (.work none)
  | .create | .read => List.replicate 2 (.work none)
  | _ => [.work none]

private theorem play_stepsToWrite {d : Delivery} (hsound : d.Sound) (hstate : d.state = .timedOut)
    (hwrites : d.phase.willWriteState = true) : (d.play (stepsToWrite d.phase)).state ≠ .timedOut := by
  have hread := hsound.read_eq
  cases hphase : d.phase with
  | settle keep =>
    cases hfault : d.fault <;> cases keep <;>
      simp_all [stepsToWrite, play, handle, advance, Phase.willWriteState]
  | _ => simp_all [stepsToWrite, play, handle, advance, Phase.willWriteState, List.replicate]

/-- A final state of a delivery stays, whatever happens, exactly if the caller has been answered and the delivery is
past the writes that do not look at the state. -/
theorem state_play_eq_iff (job : PrintJob) (endpoint : String) (events : List Event)
    (hfinal : ((ofJob job endpoint).play events).state.isFinal = true) :
    (∀ more, ((ofJob job endpoint).play (events ++ more)).state = ((ofJob job endpoint).play events).state) ↔
      ((ofJob job endpoint).play events).ending.isSome = true ∧
        ((ofJob job endpoint).play events).phase.willWriteState = false := by
  have hsound := (sound_ofJob job endpoint).play events
  have hshown := (shown_ofJob job endpoint).play events
  simp only [play_append]
  generalize (ofJob job endpoint).play events = d at *
  constructor
  · intro hstays
    -- a caller without an answer can still give up, but a state that this does not change is one of an answered caller
    have hanswered : d.ending.isSome = true := by
      rw [← Bool.not_eq_false]
      intro hopen
      have hexpired : (d.play [.expire]).state = .timedOut := by simp [play, handle, expire, hopen]
      rw [hshown.answered ((hstays _).symm.trans hexpired)] at hopen
      cases hopen
    refine ⟨hanswered, ?_⟩
    rw [← Bool.not_eq_true]
    intro hwrites
    -- before it settles, only the caller can have made the state final, and the next write replaces that
    have hstate : d.state = .timedOut := by
      cases hstate : d.state with
      | timedOut => rfl
      | completed => rcases hshown.settled (.inl hstate) with h | h <;> simp [h, Phase.willWriteState] at hwrites
      | failed => rcases hshown.settled (.inr hstate) with h | h <;> simp [h, Phase.willWriteState] at hwrites
      | _ => simp [hstate, DeliveryState.isFinal] at hfinal
    exact play_stepsToWrite hsound hstate hwrites ((hstays _).trans hstate)
  · rintro ⟨hanswered, hpassed⟩ more
    exact Rests.play hshown ⟨hfinal, hanswered, hpassed⟩ more

/-! ### Both together -/

/-- A caller that has been answered keeps its answer. -/
private theorem ending_play_of_answered {d : Delivery} (h : d.ending.isSome = true) (events : List Event) :
    (d.play events).ending = d.ending := by
  induction events generalizing d with
  | nil => rfl
  | cons event events ih =>
    have hsame : (d.handle event).ending = d.ending := by
      cases hwork : event.isWork with
      | true =>
        obtain ⟨result, rfl⟩ : ∃ result, event = .work result := by
          cases event <;> simp_all [Event.isWork]
        exact ending_advance d result
      | false => rw [handle_of_answered h hwork]
    have hrest := ih (d := d.handle event) (by rw [hsame]; exact h)
    rw [hsame] at hrest
    exact hrest

private theorem Shown.ending_of_mem_states {d : Delivery} (hd : d.Shown) {events : List Event}
    (h : .timedOut ∈ d.states events) : (d.play events).ending = some .expired := by
  induction events generalizing d with
  | nil => exact hd.answered (by simpa [states, eq_comm] using h)
  | cons event events ih =>
    rw [states, List.mem_cons] at h
    rcases h with hnow | hlater
    · have hended := hd.answered hnow.symm
      rw [ending_play_of_answered (by rw [hended]; rfl), hended]
    · exact ih (hd.handle event) hlater

/-- The states of a delivery come in order from idle on, but for the mark of a caller that is told of a timeout.  A
final state stays, whatever happens, exactly if the caller has been answered and the delivery is past the writes that
do not look at the state. -/
theorem inOrder_states_and_stays_iff (job : PrintJob) (endpoint : String) (events : List Event) :
    DeliveryState.InOrder (.idle :: ((ofJob job endpoint).states events).filter (· ≠ .timedOut)) ∧
      (.timedOut ∈ (ofJob job endpoint).states events →
        ((ofJob job endpoint).play events).ending = some .expired) ∧
      (((ofJob job endpoint).play events).state.isFinal = true →
        ((∀ more, ((ofJob job endpoint).play (events ++ more)).state = ((ofJob job endpoint).play events).state) ↔
          ((ofJob job endpoint).play events).ending.isSome = true ∧
            ((ofJob job endpoint).play events).phase.willWriteState = false)) :=
  ⟨(hasCome_ofJob job endpoint).inOrder_states (sound_ofJob job endpoint) events,
    (shown_ofJob job endpoint).ending_of_mem_states, state_play_eq_iff job endpoint events⟩

/-- A caller that gives up while its job is written has seen the states in order, and its mark stays, however the
writing goes on. -/
theorem inOrder_states_expired_in_write :
    let job : PrintJob := ⟨[0x1B, 0x40], .whole 5, "receipt"⟩
    let events : List Event := List.replicate 6 (.work none) ++ [.expire]
    let d := (ofJob job "file:printer").play events
    (ofJob job "file:printer").states events =
        [.idle, .idle, .idle, .idle, .staged, .staged, .transmitting, .timedOut] ∧
      d.phase = .writePayload ∧ d.state = .timedOut ∧ d.ending = some .expired ∧
      ∀ more, ((ofJob job "file:printer").play (events ++ more)).state = .timedOut := by
  intro job events d
  have h := inOrder_states_and_stays_iff job "file:printer" events
  exact ⟨by decide, by decide, by decide, h.2.1 (by decide), (h.2.2 (by decide)).2 (by decide)⟩

/-- A caller that gives up while the printer is connected is told so, but the delivery goes on and shows the states of
one that nobody has given up. -/
theorem state_play_forgets_expiry :
    let job : PrintJob := ⟨[0x1B, 0x40], .whole 5, "receipt"⟩
    let states (events : List Event) := ((ofJob job "file:printer").play events).state
    let events : List Event := List.replicate 5 (.work none) ++ [.expire]
    let d := (ofJob job "file:printer").play (events ++ List.replicate 9 (.work none))
    states events = .timedOut ∧ states (events ++ [.work none]) = .transmitting ∧
      d.phase = .done ∧ d.state = .completed ∧
      d.error? = some (.delivery (.timeout "file:printer" (.whole 5) none)) := by
  decide

end Delivery

end ThermalPress
