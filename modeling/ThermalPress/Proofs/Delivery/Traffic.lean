import Mathlib.Data.List.Basic
import ThermalPress.Proofs.Delivery.Runs

/-!
# Many deliveries at a time

Any number of deliveries take their steps in any order (`Traffic.step`), and those to one endpoint share its line:
whether its turn is taken, which deliveries have had it, and what was written.  Only the taking of a turn waits for
others.  The delivery that has the turn is the last that took it, and the writes at the endpoint are the blocks of the
deliveries that had the turn, one behind the other (`Traffic.Orderly`).  Every step keeps this (`Orderly.step`), so
in every run the deliveries to an endpoint come one at a time (`oneAtATime_of_run`).  A spool file that the system
refuses to delete stays when the turn is given up (`not_atMostOne_files_after_refusal`).
-/

namespace ThermalPress

/-- What the deliveries to one endpoint share. -/
structure Line where
  /-- Whether a delivery has the turn. -/
  taken : Bool
  /-- The deliveries that have had the turn, in their order. -/
  turns : List Nat
  /-- The writes that the endpoint took, each with the delivery that it came from. -/
  writes : List (Nat × Bytes)
  deriving DecidableEq, Repr

/-- The deliveries that were started, and the lines of the endpoints. -/
structure Traffic where
  deliveries : List Delivery
  lines : String → Line

/-- Something that happens in the traffic. -/
inductive Move where
  /-- A delivery of a job to an endpoint is started. -/
  | submit (job : PrintJob) (endpoint : String)
  /-- An event happens to a delivery. -/
  | event (delivery : Nat) (event : Event)
  deriving DecidableEq, Repr

/-- The line after an event at a delivery.  A turn that is taken cannot be taken again. -/
def Line.handle (line : Line) (i : Nat) (d : Delivery) (event : Event) : Option Line :=
  match d.phase, event with
  | .acquire, .work none => if line.taken then none else some { line with taken := true, turns := line.turns ++ [i] }
  | .writePayload, .work none => some { line with writes := line.writes ++ [(i, d.data)] }
  | .writeFlush, .work none => some { line with writes := line.writes ++ [(i, Command.flush)] }
  | .yieldTurn, .work _ => some { line with taken := false }
  | _, _ => some line

namespace Traffic

/-- No delivery was started. -/
def idle : Traffic := ⟨[], fun _ => ⟨false, [], []⟩⟩

/-- The traffic with a new delivery. -/
def submit (t : Traffic) (job : PrintJob) (endpoint : String) : Traffic :=
  { t with deliveries := t.deliveries ++ [.ofJob job endpoint] }

/-- The traffic in which a delivery and the line of its endpoint are new. -/
def update (t : Traffic) (i : Nat) (d : Delivery) (line : Line) : Traffic :=
  ⟨t.deliveries.set i d, fun endpoint => if endpoint = d.endpoint then line else t.lines endpoint⟩

/-- The traffic after a move, if it is possible. -/
def step (t : Traffic) : Move → Option Traffic
  | .submit job endpoint => some (t.submit job endpoint)
  | .event i event => do
    let d ← t.deliveries[i]?
    let line ← (t.lines d.endpoint).handle i d event
    return t.update i (d.handle event) line

/-- The traffic after moves, if they are possible. -/
def run (t : Traffic) (moves : List Move) : Option Traffic := moves.foldlM step t

/-- What a delivery has written so far. -/
def written (t : Traffic) (i : Nat) : List Bytes := (t.deliveries[i]?.map Delivery.written).getD []

/-- The writes of a delivery, with its number. -/
def block (t : Traffic) (i : Nat) : List (Nat × Bytes) := (t.written i).map (i, ·)

end Traffic

/-! ### What an event does to the turn and the writes -/

namespace Delivery

/-- What an event sends to the printer. -/
def sends (d : Delivery) (event : Event) : List Bytes :=
  match d.phase, event with
  | .writePayload, .work none => [d.data]
  | .writeFlush, .work none => [Command.flush]
  | _, _ => []

/-- Whether an event takes the turn. -/
def takesTurn (d : Delivery) (event : Event) : Bool := d.phase = .acquire && event = .work none

/-- Whether an event gives up the turn. -/
def yieldsTurn (d : Delivery) (event : Event) : Bool := d.phase = .yieldTurn && event.isWork

/-- Whether the delivery is behind the wait for its turn. -/
def isBehindTurn (d : Delivery) : Bool := d.phase ≠ .start && d.phase ≠ .acquire

/-- A move of the caller has nothing to do with the printer. -/
private theorem quiet_of_not_isWork {event : Event} (h : event.isWork = false) (d : Delivery) :
    d.sends event = [] ∧ d.takesTurn event = false ∧ d.yieldsTurn event = false := by
  cases event with
  | work result => cases h
  | expire => simp [sends, takesTurn, yieldsTurn, Event.isWork]
  | collect => simp [sends, takesTurn, yieldsTurn, Event.isWork]

theorem written_handle {d : Delivery} (hd : d.Sound) (event : Event) :
    (d.handle event).written = d.written ++ d.sends event := by
  rcases d.handle_cases event with ⟨result, rfl⟩ | ⟨hwork, state, ending, h⟩
  · have hread := hd.read_eq
    cases hphase : d.phase <;> cases result <;> simp_all [handle, advance, failTo, sends]
  · rw [h, (quiet_of_not_isWork hwork d).1, List.append_nil]

theorem hasTurn_handle (d : Delivery) (event : Event) :
    (d.handle event).hasTurn = (d.takesTurn event || d.hasTurn && !d.yieldsTurn event) := by
  rcases d.handle_cases event with ⟨result, rfl⟩ | ⟨hwork, state, ending, h⟩
  · simp only [handle, hasTurn, phase_advance, takesTurn, yieldsTurn, Event.isWork]
    cases d.phase <;> cases result <;> simp [Phase.after]
    -- Only the reading of the spool file depends on more than the phase and the result.
    cases d.buffer.read <;> simp [Except.toOption]
  · have hquiet := quiet_of_not_isWork hwork d
    simp [h, hquiet, hasTurn]

theorem hasTurn_of_sends {d : Delivery} {event : Event} (h : d.sends event ≠ []) : d.hasTurn = true := by
  unfold sends at h
  split at h <;> simp_all [hasTurn]

theorem hasTurn_of_yieldsTurn {d : Delivery} {event : Event} (h : d.yieldsTurn event = true) : d.hasTurn = true := by
  obtain ⟨hphase, -⟩ : d.phase = .yieldTurn ∧ event.isWork = true := by simpa [yieldsTurn] using h
  simp [hasTurn, hphase]

/-- A delivery stays behind the wait for its turn. -/
theorem isBehindTurn_handle {d : Delivery} (h : d.isBehindTurn = true) (event : Event) :
    (d.handle event).isBehindTurn = true := by
  rcases d.handle_cases event with ⟨result, rfl⟩ | ⟨-, state, ending, heq⟩
  · simp only [isBehindTurn, handle, phase_advance] at h ⊢
    cases hphase : d.phase <;> simp_all [Phase.after] <;> split <;> simp
  · rw [heq]
    exact h

theorem isBehindTurn_of_takesTurn {d : Delivery} {event : Event} (h : d.takesTurn event = true) :
    (d.handle event).isBehindTurn = true := by
  obtain ⟨hphase, rfl⟩ : d.phase = .acquire ∧ event = .work none := by simpa [takesTurn] using h
  simp [isBehindTurn, handle, phase_advance, hphase, Phase.after]

@[simp] theorem endpoint_handle (d : Delivery) (event : Event) : (d.handle event).endpoint = d.endpoint := by
  rcases d.handle_cases event with ⟨result, rfl⟩ | ⟨-, state, ending, heq⟩
  · exact endpoint_advance d result
  · rw [heq]

end Delivery

/-- The line after an event: a free turn is taken, or only the writes change and the turn may be given up. -/
theorem Line.handle_cases {line line' : Line} {i : Nat} {d : Delivery} {event : Event}
    (h : line.handle i d event = some line') :
    (d.takesTurn event = true ∧ line.taken = false ∧ d.sends event = [] ∧
      line' = { line with taken := true, turns := line.turns ++ [i] }) ∨
    (d.takesTurn event = false ∧
      line' = { line with
        taken := line.taken && !d.yieldsTurn event
        writes := line.writes ++ (d.sends event).map (i, ·) }) := by
  by_cases htakes : d.takesTurn event = true
  · obtain ⟨hphase, rfl⟩ : d.phase = .acquire ∧ event = .work none := by simpa [Delivery.takesTurn] using htakes
    simp only [handle, hphase] at h
    split at h
    · cases h
    · next hfree =>
      cases h
      exact .inl ⟨htakes, by simpa using hfree, by simp [Delivery.sends, hphase], rfl⟩
  · refine .inr ⟨by simpa using htakes, ?_⟩
    cases event with
    | work result =>
      cases hphase : d.phase <;> cases result <;>
        simp_all [handle, Delivery.takesTurn, Delivery.yieldsTurn, Delivery.sends, Event.isWork]
    | expire => simp_all [handle, Delivery.yieldsTurn, Delivery.sends, Event.isWork]
    | collect => simp_all [handle, Delivery.yieldsTurn, Delivery.sends, Event.isWork]

/-! ### What every step keeps -/

namespace Traffic

/-- The deliveries to each endpoint come one behind the other. -/
structure Orderly (t : Traffic) : Prop where
  sound : ∀ {i : Nat} {d : Delivery}, t.deliveries[i]? = some d → d.Sound
  turn : ∀ {i : Nat} {d : Delivery}, t.deliveries[i]? = some d → d.hasTurn = true →
    (t.lines d.endpoint).taken = true ∧ (t.lines d.endpoint).turns.getLast? = some i
  known : ∀ {endpoint : String} {i : Nat}, i ∈ (t.lines endpoint).turns →
    ∃ d, t.deliveries[i]? = some d ∧ d.endpoint = endpoint ∧ d.isBehindTurn = true
  nodup : ∀ endpoint, (t.lines endpoint).turns.Nodup
  blocks : ∀ endpoint, (t.lines endpoint).writes = (t.lines endpoint).turns.flatMap t.block

/-- The turn of an endpoint is had by its last delivery only. -/
theorem Orderly.eq_of_hasTurn {t : Traffic} (ht : t.Orderly) {i j : Nat} {d d' : Delivery}
    (hd : t.deliveries[i]? = some d) (hd' : t.deliveries[j]? = some d') (hsame : d.endpoint = d'.endpoint)
    (hturn : d.hasTurn = true) (hturn' : d'.hasTurn = true) : i = j := by
  have hlast := (ht.turn hd hturn).2
  rw [hsame, (ht.turn hd' hturn').2, Option.some.injEq] at hlast
  exact hlast.symm

theorem orderly_idle : idle.Orderly where
  sound := by simp [idle]
  turn := by simp [idle]
  known := by simp [idle]
  nodup := by simp [idle]
  blocks := by simp [idle]

section Update

variable {t : Traffic} {i : Nat} {d d' : Delivery} {line : Line}

theorem getElem?_update (hd : t.deliveries[i]? = some d) (j : Nat) :
    (t.update i d' line).deliveries[j]? = if i = j then some d' else t.deliveries[j]? := by
  have hi : i < t.deliveries.length := (List.getElem?_eq_some_iff.1 hd).1
  simp [update, List.getElem?_set, hi]

theorem lines_update (endpoint : String) :
    (t.update i d line).lines endpoint = if endpoint = d.endpoint then line else t.lines endpoint := rfl

theorem block_update_self (hd : t.deliveries[i]? = some d) :
    (t.update i d' line).block i = d'.written.map (i, ·) := by
  simp [block, written, getElem?_update hd]

theorem block_update_of_ne (hd : t.deliveries[i]? = some d) {j : Nat} (hj : i ≠ j) :
    (t.update i d' line).block j = t.block j := by
  simp [block, written, getElem?_update hd, hj]

/-- The blocks of other deliveries are as before. -/
theorem flatMap_block_update (hd : t.deliveries[i]? = some d) {order : List Nat} (hi : i ∉ order) :
    order.flatMap (t.update i d' line).block = order.flatMap t.block := by
  refine List.flatMap_congr fun j hj => block_update_of_ne hd ?_
  rintro rfl
  exact hi hj

end Update

section Submit

variable {t : Traffic} {job : PrintJob} {endpoint : String}

theorem getElem?_submit_cases {i : Nat} {d : Delivery} (h : (t.submit job endpoint).deliveries[i]? = some d) :
    t.deliveries[i]? = some d ∨ d = .ofJob job endpoint := by
  rw [submit, List.getElem?_append] at h
  split at h
  · exact .inl h
  · exact .inr (List.mem_singleton.1 (List.mem_of_getElem? h))

/-- A new delivery has written nothing, like one that there is not. -/
theorem block_submit : (t.submit job endpoint).block = t.block := by
  funext i
  simp only [block, written, submit, List.getElem?_append]
  split
  · rfl
  · next hi =>
    have hnone : t.deliveries[i]? = none := List.getElem?_eq_none (by omega)
    cases h : [Delivery.ofJob job endpoint][i - t.deliveries.length]? with
    | none => rw [hnone]
    | some d =>
      obtain rfl := List.mem_singleton.1 (List.mem_of_getElem? h)
      rw [hnone]
      rfl

end Submit

theorem Orderly.submit {t : Traffic} (ht : t.Orderly) (job : PrintJob) (endpoint : String) :
    (t.submit job endpoint).Orderly := by
  constructor
  · intro i d hd
    rcases getElem?_submit_cases hd with hd | rfl
    · exact ht.sound hd
    · exact Delivery.sound_ofJob job endpoint
  · intro i d hd hturn
    rcases getElem?_submit_cases hd with hd | rfl
    · exact ht.turn hd hturn
    · simp [Delivery.ofJob, Delivery.hasTurn] at hturn
  · intro e i hi
    obtain ⟨d, hd, hknown⟩ := ht.known hi
    have hlt : i < t.deliveries.length := (List.getElem?_eq_some_iff.1 hd).1
    exact ⟨d, by rw [Traffic.submit, List.getElem?_append_left hlt, hd], hknown⟩
  · exact ht.nodup
  · intro e
    rw [block_submit]
    exact ht.blocks e

/-! Each field of `Orderly` after an event. -/

section Event

variable {t : Traffic} {i : Nat} {d : Delivery} {event : Event} {line : Line}

private theorem sound_update (ht : t.Orderly) (hd : t.deliveries[i]? = some d) {j : Nat} {d' : Delivery}
    (h : (t.update i (d.handle event) line).deliveries[j]? = some d') : d'.Sound := by
  rw [getElem?_update hd] at h
  split at h
  · cases h
    exact (ht.sound hd).handle event
  · exact ht.sound h

/-- The turn goes to the delivery that takes it, and stays with a delivery that had it. -/
private theorem turn_update (ht : t.Orderly) (hd : t.deliveries[i]? = some d)
    (hline : (t.lines d.endpoint).handle i d event = some line) {j : Nat} {d' : Delivery}
    (h : (t.update i (d.handle event) line).deliveries[j]? = some d') (hturn : d'.hasTurn = true) :
    ((t.update i (d.handle event) line).lines d'.endpoint).taken = true ∧
      ((t.update i (d.handle event) line).lines d'.endpoint).turns.getLast? = some j := by
  rw [lines_update, Delivery.endpoint_handle]
  rw [getElem?_update hd] at h
  by_cases hij : i = j
  · subst hij
    rw [if_pos rfl, Option.some.injEq] at h
    subst h
    rw [if_pos (Delivery.endpoint_handle d event)]
    rw [Delivery.hasTurn_handle] at hturn
    rcases Line.handle_cases hline with ⟨-, -, -, rfl⟩ | ⟨htakes, rfl⟩
    · simp
    · obtain ⟨hhas, hyields⟩ : d.hasTurn = true ∧ d.yieldsTurn event = false := by simpa [htakes] using hturn
      obtain ⟨htaken, hlast⟩ := ht.turn hd hhas
      exact ⟨by simp [htaken, hyields], hlast⟩
  · rw [if_neg hij] at h
    obtain ⟨htaken, hlast⟩ := ht.turn h hturn
    split
    · next hsame =>
      rw [hsame] at htaken hlast
      rcases Line.handle_cases hline with ⟨-, hfree, -, -⟩ | ⟨-, rfl⟩
      · rw [hfree] at htaken
        cases htaken
      · refine ⟨?_, hlast⟩
        have hyields : d.yieldsTurn event = false := by
          by_contra hyields
          exact hij (ht.eq_of_hasTurn hd h hsame.symm
            (Delivery.hasTurn_of_yieldsTurn (by simpa using hyields)) hturn)
        simp [htaken, hyields]
    · exact ⟨htaken, hlast⟩

private theorem known_update (ht : t.Orderly) (hd : t.deliveries[i]? = some d)
    (hline : (t.lines d.endpoint).handle i d event = some line) {endpoint : String} {j : Nat}
    (hj : j ∈ ((t.update i (d.handle event) line).lines endpoint).turns) :
    ∃ d', (t.update i (d.handle event) line).deliveries[j]? = some d' ∧ d'.endpoint = endpoint ∧
      d'.isBehindTurn = true := by
  have hold (hj : j ∈ (t.lines endpoint).turns) : ∃ d',
      (t.update i (d.handle event) line).deliveries[j]? = some d' ∧ d'.endpoint = endpoint ∧
        d'.isBehindTurn = true := by
    obtain ⟨d', hd', hendpoint, hbehind⟩ := ht.known hj
    by_cases hij : i = j
    · subst hij
      obtain rfl : d = d' := Option.some.inj (hd.symm.trans hd')
      exact ⟨d.handle event, by simp [getElem?_update hd], by simpa using hendpoint,
        Delivery.isBehindTurn_handle hbehind event⟩
    · exact ⟨d', by simp [getElem?_update hd, hij, hd'], hendpoint, hbehind⟩
  rw [lines_update, Delivery.endpoint_handle] at hj
  split at hj
  · next hsame =>
    subst hsame
    rcases Line.handle_cases hline with ⟨htakes, -, -, rfl⟩ | ⟨-, rfl⟩
    · rcases List.mem_append.1 hj with hj | hj
      · exact hold hj
      · obtain rfl := List.mem_singleton.1 hj
        exact ⟨d.handle event, by simp [getElem?_update hd], by simp, Delivery.isBehindTurn_of_takesTurn htakes⟩
    · exact hold hj
  · exact hold hj

/-- A delivery that takes its turn was waiting for it until then. -/
private theorem not_mem_turns_of_takesTurn (ht : t.Orderly) (hd : t.deliveries[i]? = some d)
    (htakes : d.takesTurn event = true) : i ∉ (t.lines d.endpoint).turns := by
  intro hi
  obtain ⟨d', hd', -, hbehind⟩ := ht.known hi
  obtain rfl : d = d' := Option.some.inj (hd.symm.trans hd')
  obtain ⟨hphase, -⟩ : d.phase = .acquire ∧ event = .work none := by simpa [Delivery.takesTurn] using htakes
  simp [Delivery.isBehindTurn, hphase] at hbehind

private theorem nodup_update (ht : t.Orderly) (hd : t.deliveries[i]? = some d)
    (hline : (t.lines d.endpoint).handle i d event = some line) (endpoint : String) :
    ((t.update i (d.handle event) line).lines endpoint).turns.Nodup := by
  rw [lines_update, Delivery.endpoint_handle]
  split
  · rcases Line.handle_cases hline with ⟨htakes, -, -, rfl⟩ | ⟨-, rfl⟩
    · have hnew := not_mem_turns_of_takesTurn ht hd htakes
      refine List.nodup_append.2 ⟨ht.nodup d.endpoint, by simp, ?_⟩
      rintro j hj _ hi rfl
      obtain rfl := List.mem_singleton.1 hi
      exact hnew hj
    · exact ht.nodup d.endpoint
  · exact ht.nodup endpoint

/-- An event that sends nothing leaves the blocks as they are. -/
private theorem block_update_of_sends_eq_nil (ht : t.Orderly) (hd : t.deliveries[i]? = some d)
    (hsends : d.sends event = []) : (t.update i (d.handle event) line).block = t.block := by
  funext j
  by_cases hij : i = j
  · subst hij
    rw [block_update_self hd, Delivery.written_handle (ht.sound hd), hsends, List.append_nil]
    simp [block, written, hd]
  · exact block_update_of_ne hd hij

/-- What is written goes behind the last block. -/
private theorem blocks_update (ht : t.Orderly) (hd : t.deliveries[i]? = some d)
    (hline : (t.lines d.endpoint).handle i d event = some line) (endpoint : String) :
    ((t.update i (d.handle event) line).lines endpoint).writes =
      ((t.update i (d.handle event) line).lines endpoint).turns.flatMap (t.update i (d.handle event) line).block := by
  have hblock : t.block i = d.written.map (i, ·) := by simp [block, written, hd]
  rw [lines_update, Delivery.endpoint_handle]
  split
  · have hblocks := ht.blocks d.endpoint
    rcases Line.handle_cases hline with ⟨htakes, -, hsends, rfl⟩ | ⟨-, rfl⟩
    · have hwritten : d.written = [] := by
        obtain ⟨hphase, -⟩ : d.phase = .acquire ∧ event = .work none := by simpa [Delivery.takesTurn] using htakes
        exact (ht.sound hd).written _ (by simp [hphase, Phase.written?])
      rw [block_update_of_sends_eq_nil ht hd hsends, List.flatMap_append, ← hblocks]
      simp [hblock, hwritten]
    · by_cases hsends : d.sends event = []
      · rw [block_update_of_sends_eq_nil ht hd hsends]
        simpa [hsends] using hblocks
      · obtain ⟨before, hturns⟩ := List.getLast?_eq_some_iff.1 (ht.turn hd (Delivery.hasTurn_of_sends hsends)).2
        have hnodup := ht.nodup d.endpoint
        rw [hturns] at hblocks hnodup
        have hi : i ∉ before := fun hi => (List.nodup_append.1 hnodup).2.2 i hi i (by simp) rfl
        simp only [hturns, hblocks, List.flatMap_append, flatMap_block_update hd hi, List.append_assoc]
        simp [hblock, block_update_self hd, Delivery.written_handle (ht.sound hd)]
  · next hother =>
    have hi : i ∉ (t.lines endpoint).turns := by
      intro hi
      obtain ⟨d', hd', hendpoint, -⟩ := ht.known hi
      obtain rfl : d = d' := Option.some.inj (hd.symm.trans hd')
      exact hother hendpoint.symm
    rw [flatMap_block_update hd hi]
    exact ht.blocks endpoint

end Event

theorem Orderly.update {t : Traffic} (ht : t.Orderly) {i : Nat} {d : Delivery} {event : Event} {line : Line}
    (hd : t.deliveries[i]? = some d) (hline : (t.lines d.endpoint).handle i d event = some line) :
    (t.update i (d.handle event) line).Orderly where
  sound := sound_update ht hd
  turn := turn_update ht hd hline
  known := known_update ht hd hline
  nodup := nodup_update ht hd hline
  blocks := blocks_update ht hd hline

theorem Orderly.step {t t' : Traffic} {move : Move} (ht : t.Orderly) (h : t.step move = some t') : t'.Orderly := by
  cases move with
  | submit job endpoint =>
    cases h
    exact ht.submit job endpoint
  | event i event =>
    simp only [Traffic.step, Option.bind_eq_bind, Option.bind_eq_some_iff, Option.pure_def, Option.some.injEq] at h
    obtain ⟨d, hd, line, hline, rfl⟩ := h
    exact ht.update hd hline

theorem Orderly.run {t t' : Traffic} {moves : List Move} (ht : t.Orderly) (h : t.run moves = some t') :
    t'.Orderly := by
  induction moves generalizing t with
  | nil =>
    cases h
    exact ht
  | cons move moves ih =>
    simp only [Traffic.run, List.foldlM_cons, Option.bind_eq_bind, Option.bind_eq_some_iff] at h
    obtain ⟨next, hstep, hrest⟩ := h
    exact ih (ht.step hstep) hrest

/-! ### One at a time -/

/-- At most one delivery to an endpoint is such. -/
def AtMostOne (t : Traffic) (endpoint : String) (p : Delivery → Prop) : Prop :=
  ∀ (i j : Nat) (d d' : Delivery), t.deliveries[i]? = some d → t.deliveries[j]? = some d' →
    d.endpoint = endpoint → d'.endpoint = endpoint → p d → p d' → i = j

/-- The deliveries to an endpoint come one at a time. -/
structure OneAtATime (t : Traffic) (endpoint : String) : Prop where
  turn : t.AtMostOne endpoint fun d => d.hasTurn = true
  /-- A file that the system refused to delete stays beside those of later deliveries, and is not counted. -/
  file : t.AtMostOne endpoint fun d => d.buffer.files ≠ [] ∧ d.buffer.refusals = 0
  /-- The writes are blocks, one behind the other, and no delivery has two. -/
  writes : ∃ blocks : List (Nat × List Bytes), (blocks.map (·.1)).Nodup ∧
    (∀ block ∈ blocks, ∃ d, t.deliveries[block.1]? = some d ∧ d.endpoint = endpoint ∧ block.2 = d.written ∧
      block.2 <+: [d.job.payload, Command.flush]) ∧
    (t.lines endpoint).writes = blocks.flatMap fun block => block.2.map (block.1, ·)

/-- A spool file is deleted before the turn is given up. -/
theorem hasTurn_of_files_ne_nil {d : Delivery} (hd : d.Sound) (hfiles : d.buffer.files ≠ [])
    (hrefusals : d.buffer.refusals = 0) : d.hasTurn = true := by
  by_contra hturn
  cases hbuffer : d.phase.buffer? d.job.payload with
  | none => exact hfiles (hd.deleted hbuffer hrefusals)
  | some buffer =>
    have hempty : buffer = .ofData d.job.payload := by
      cases hphase : d.phase <;> simp_all [Delivery.hasTurn, Phase.buffer?]
    rw [hd.buffer buffer hbuffer, hempty] at hfiles
    exact hfiles rfl

theorem Orderly.oneAtATime {t : Traffic} (ht : t.Orderly) (endpoint : String) : t.OneAtATime endpoint where
  turn := by
    rintro i j d d' hd hd' rfl hsame hturn hturn'
    exact ht.eq_of_hasTurn hd hd' hsame.symm hturn hturn'
  file := by
    rintro i j d d' hd hd' rfl hsame ⟨hfiles, hrefusals⟩ ⟨hfiles', hrefusals'⟩
    exact ht.eq_of_hasTurn hd hd' hsame.symm (hasTurn_of_files_ne_nil (ht.sound hd) hfiles hrefusals)
      (hasTurn_of_files_ne_nil (ht.sound hd') hfiles' hrefusals')
  writes := by
    refine ⟨(t.lines endpoint).turns.map fun i => (i, t.written i), ?_, ?_, ?_⟩
    · simpa [Function.comp_def] using ht.nodup endpoint
    · intro block hblock
      obtain ⟨i, hi, rfl⟩ := List.mem_map.1 hblock
      obtain ⟨d, hd, hendpoint, -⟩ := ht.known hi
      have hwritten : t.written i = d.written := by simp [written, hd]
      exact ⟨d, hd, hendpoint, hwritten, hwritten ▸ (ht.sound hd).block⟩
    · rw [ht.blocks endpoint, List.flatMap_map]
      rfl

/-- Whatever deliveries are started and whatever happens to them, in whichever order, those to one endpoint come one
at a time. -/
theorem oneAtATime_of_run {moves : List Move} {t : Traffic} (h : idle.run moves = some t) (endpoint : String) :
    t.OneAtATime endpoint :=
  (orderly_idle.run h).oneAtATime endpoint

/-- The caller of the first delivery gives up in the middle of its writes and tries again, while a second one waits. -/
theorem oneAtATime_try_again :
    let job : PrintJob := ⟨[0x41], .whole 5, "receipt"⟩
    let work (i n : Nat) : List Move := List.replicate n (.event i (.work none))
    let moves : List Move :=
      [.submit job "file:printer", .submit ⟨[0x42], .whole 5, "label"⟩ "file:printer"] ++ work 0 7 ++
        [.event 0 .expire, .submit job "file:printer"] ++ work 1 1 ++ work 2 1 ++ work 0 4 ++ work 2 7 ++
        [.event 1 (.work (some (.expired "busy")))] ++ work 2 1
    ∃ t, idle.run moves = some t ∧ t.OneAtATime "file:printer" ∧
      (t.lines "file:printer").writes = [(0, [0x41]), (0, Command.flush), (2, [0x41]), (2, Command.flush)] := by
  intro job work moves
  have hwrites : (idle.run moves).map (fun t => (t.lines "file:printer").writes) =
      some [(0, [0x41]), (0, Command.flush), (2, [0x41]), (2, Command.flush)] := by decide
  obtain ⟨t, ht, hlines⟩ := Option.map_eq_some_iff.1 hwrites
  exact ⟨t, ht, oneAtATime_of_run ht "file:printer", hlines⟩

/-- The system refuses to delete the spool file of the first delivery, which gives up its turn all the same, and the
second delivery makes its own file beside it. -/
theorem not_atMostOne_files_after_refusal :
    let work (i n : Nat) : List Move := List.replicate n (.event i (.work none))
    let moves : List Move :=
      [.submit ⟨[0x41], .whole 5, "receipt"⟩ "file:printer", .submit ⟨[0x42], .whole 5, "label"⟩ "file:printer"] ++
        work 0 9 ++ [.event 0 (.work (some (.other "PermissionError" "[Errno 13] Permission denied: '#'")))] ++
        work 0 1 ++ work 1 4
    ∃ t, idle.run moves = some t ∧ ¬ t.AtMostOne "file:printer" fun d => d.buffer.files ≠ [] := by
  intro work moves
  have hfiles : (idle.run moves).map (fun t => t.deliveries.map fun d => (d.endpoint, d.buffer.files)) =
      some [("file:printer", [(0, [0x41])]), ("file:printer", [(0, [0x42])])] := by decide
  obtain ⟨t, ht, hdeliveries⟩ := Option.map_eq_some_iff.1 hfiles
  refine ⟨t, ht, fun hone => ?_⟩
  have hleft (i : Nat) (endpoint : String) (files : List (Nat × Bytes))
      (h : (t.deliveries.map fun d => (d.endpoint, d.buffer.files))[i]? = some (endpoint, files)) :
      ∃ d, t.deliveries[i]? = some d ∧ d.endpoint = endpoint ∧ d.buffer.files = files := by
    rw [List.getElem?_map] at h
    obtain ⟨d, hd, heq⟩ := Option.map_eq_some_iff.1 h
    exact ⟨d, hd, (Prod.mk.inj heq).1, (Prod.mk.inj heq).2⟩
  obtain ⟨d, hd, hendpoint, hd_files⟩ := hleft 0 "file:printer" [(0, [0x41])] (by rw [hdeliveries]; rfl)
  obtain ⟨d', hd', hendpoint', hd_files'⟩ := hleft 1 "file:printer" [(0, [0x42])] (by rw [hdeliveries]; rfl)
  have hsame := hone 0 1 d d' hd hd' hendpoint hendpoint' (by simp [hd_files]) (by simp [hd_files'])
  cases hsame

end Traffic

end ThermalPress
