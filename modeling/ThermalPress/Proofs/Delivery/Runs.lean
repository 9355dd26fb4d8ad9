import ThermalPress.Proofs.Delivery.Steps

/-!
# Runs of one delivery

A run of a delivery is any list of events: steps of the delivery, each with the result it happens to have, and moves
of the caller between them (`Delivery.play`).  Facts about runs go by one induction (`Sound.play_induction`): no phase
is gone through twice (`countP_phase_le_one`), and a delivery is done after as many steps as there are phases before
it (`phase_play_eq_done`).
-/

namespace ThermalPress

/-- Something that happens to a delivery. -/
inductive Event where
  /-- The delivery takes a step, which may fail. -/
  | work (result : Option Fault)
  /-- The caller's wait ends. -/
  | expire
  /-- The caller asks for the outcome. -/
  | collect
  deriving DecidableEq, Repr

def Event.isWork : Event → Bool
  | .work _ => true
  | _ => false

/-- A step of a delivery: the phase that it was taken in, and its result. -/
abbrev Taken := Phase × Option Fault

namespace Delivery

/-- The delivery after an event. -/
def handle (d : Delivery) : Event → Delivery
  | .work result => d.advance result
  | .expire => d.expire
  | .collect => d.collect

/-- The delivery after events. -/
def play (d : Delivery) (events : List Event) : Delivery := events.foldl handle d

theorem play_append (d : Delivery) (events more : List Event) : d.play (events ++ more) = (d.play events).play more :=
  List.foldl_append

/-- The steps that the delivery takes in the course of events. -/
def steps : Delivery → List Event → List Taken
  | _, [] => []
  | d, .work result :: events => (d.phase, result) :: (d.advance result).steps events
  | d, .expire :: events => d.expire.steps events
  | d, .collect :: events => d.collect.steps events

/-- An event is a step, or a move of the caller. -/
theorem handle_cases (d : Delivery) (event : Event) :
    (∃ result, event = .work result) ∨
      event.isWork = false ∧ ∃ state ending, d.handle event = { d with state, ending } := by
  cases event with
  | work result => exact .inl ⟨result, rfl⟩
  | expire => exact .inr ⟨rfl, d.expire_eq⟩
  | collect => exact .inr ⟨rfl, d.collect_eq⟩

theorem Sound.handle {d : Delivery} (hd : d.Sound) (event : Event) : (d.handle event).Sound := by
  rcases d.handle_cases event with ⟨result, rfl⟩ | ⟨-, state, ending, h⟩
  · exact hd.advance result
  · rw [h]
    exact hd.wait state ending

theorem steps_cons_of_not_isWork {event : Event} (h : event.isWork = false) (d : Delivery) (events : List Event) :
    d.steps (event :: events) = (d.handle event).steps events := by
  cases event with
  | work result => cases h
  | expire => rfl
  | collect => rfl

/-- Induction over a run, in which the moves of the caller are all alike. -/
theorem Sound.play_induction {motive : Delivery → List Taken → Delivery → Prop}
    (stop : ∀ d, d.Sound → motive d [] d)
    (work : ∀ d result steps d', d.Sound → motive (d.advance result) steps d' →
      motive d ((d.phase, result) :: steps) d')
    (wait : ∀ d state ending steps d', d.Sound → motive { d with state, ending } steps d' → motive d steps d')
    {d : Delivery} (hd : d.Sound) (events : List Event) : motive d (d.steps events) (d.play events) := by
  induction events generalizing d with
  | nil => exact stop d hd
  | cons event events ih =>
    have hrest := ih (hd.handle event)
    rcases d.handle_cases event with ⟨result, rfl⟩ | ⟨hwork, state, ending, h⟩
    · exact work d result _ _ hd hrest
    · rw [steps_cons_of_not_isWork hwork]
      rw [h] at hrest
      have hmove := wait d state ending _ _ hd hrest
      rwa [← h] at hmove

theorem Sound.play {d : Delivery} (hd : d.Sound) (events : List Event) : (d.play events).Sound :=
  Sound.play_induction (motive := fun _ _ d' => d'.Sound) (fun _ hd => hd) (fun _ _ _ _ _ ih => ih)
    (fun _ _ _ _ _ _ ih => ih) hd events

theorem job_play {d : Delivery} (hd : d.Sound) (events : List Event) : (d.play events).job = d.job := by
  refine Sound.play_induction (motive := fun d _ d' => d'.job = d.job) ?_ ?_ ?_ hd events
  · intro d _
    rfl
  · intro d result steps d' _ ih
    rw [ih, job_advance]
  · intro d state ending steps d' _ ih
    exact ih

theorem endpoint_play {d : Delivery} (hd : d.Sound) (events : List Event) : (d.play events).endpoint = d.endpoint := by
  refine Sound.play_induction (motive := fun d _ d' => d'.endpoint = d.endpoint) ?_ ?_ ?_ hd events
  · intro d _
    rfl
  · intro d result steps d' _ ih
    rw [ih, endpoint_advance]
  · intro d state ending steps d' _ ih
    exact ih

theorem length_steps (d : Delivery) (events : List Event) :
    (d.steps events).length = events.countP Event.isWork := by
  induction events generalizing d with
  | nil => rfl
  | cons event events ih => cases event <;> simp [steps, ih, Event.isWork, List.countP_cons]

/-! ### No phase twice -/

private theorem rank_after {phase : Phase} (hphase : phase ≠ .done) (readable waiting failed : Bool) :
    Phase.rank (phase.after readable waiting failed) < Phase.rank phase := by
  cases phase <;> cases readable <;> cases failed <;> simp [Phase.after, Phase.rank] at hphase ⊢

theorem rank_advance {d : Delivery} (hd : d.phase ≠ .done) (result : Option Fault) :
    Phase.rank (d.advance result).phase < Phase.rank d.phase := by
  rw [phase_advance]
  exact rank_after hd _ _ _

/-- A phase that is still ahead is gone through once at most, and one that is behind not again. -/
private theorem countP_phase_le {phase : Phase} (hphase : phase ≠ .done) {d : Delivery} (hd : d.Sound)
    (events : List Event) :
    (d.steps events).countP (·.1 = phase) ≤ if Phase.rank phase ≤ Phase.rank d.phase then 1 else 0 := by
  refine Sound.play_induction (motive := fun d steps _ => steps.countP (·.1 = phase) ≤
    if Phase.rank phase ≤ Phase.rank d.phase then 1 else 0) ?_ ?_ ?_ hd events
  · intro d _
    simp
  · intro d result steps d' _ ih
    rw [List.countP_cons]
    by_cases hdone : d.phase = .done
    · rw [advance_done hdone] at ih
      simpa [hdone, hphase.symm] using ih
    · have hrank := rank_advance hdone result
      by_cases hhere : d.phase = phase
      · subst hhere
        rw [if_neg (by omega)] at ih
        simp only [decide_true, ↓reduceIte, Nat.le_refl]
        omega
      · simp only [hhere, decide_false, Bool.false_eq_true, ↓reduceIte, Nat.add_zero]
        split at ih
        · rw [if_pos (by omega)]
          exact ih
        · omega
  · intro d state ending steps d' _ ih
    exact ih

theorem countP_phase_le_one {phase : Phase} (hphase : phase ≠ .done) {d : Delivery} (hd : d.Sound)
    (events : List Event) : (d.steps events).countP (·.1 = phase) ≤ 1 := by
  have h := countP_phase_le hphase hd events
  split at h <;> omega

/-- A delivery is done after as many steps as there can be before it. -/
theorem phase_play_eq_done {d : Delivery} (hd : d.Sound) {events : List Event}
    (h : Phase.rank d.phase ≤ (d.steps events).length) : (d.play events).phase = .done := by
  have hrank : Phase.rank (d.play events).phase ≤ Phase.rank d.phase - (d.steps events).length := by
    refine Sound.play_induction (motive := fun d steps d' =>
      Phase.rank d'.phase ≤ Phase.rank d.phase - steps.length) ?_ ?_ ?_ hd events
    · intro d _
      simp
    · intro d result steps d' _ ih
      rw [List.length_cons]
      by_cases hdone : d.phase = .done
      · rw [advance_done hdone, hdone, Phase.rank] at ih
        omega
      · have := rank_advance hdone result
        omega
    · intro d state ending steps d' _ ih
      exact ih
  have hzero : Phase.rank (d.play events).phase = 0 := by omega
  cases hphase : (d.play events).phase <;> simp_all [Phase.rank]

end Delivery

end ThermalPress
