import ThermalPress.Qr.Job

/-!
# Results

When a computation that may end in an error gives a value: each step of it does (`bind_eq_ok_iff`), whichever errors
the step is lifted from.  A list is mapped as a whole exactly if each of its members is (`exists_ok_of_mapM`,
`mapM_eq_ok_of_forall`), and otherwise fails as one of them does (`exists_error_of_mapM`).
-/

namespace ThermalPress

section Steps

variable {ε ε' α β : Type}

@[simp] theorem bind_eq_ok_iff {x : Except ε α} {f : α → Except ε β} {b : β} :
    (x >>= f) = .ok b ↔ ∃ a, x = .ok a ∧ f a = .ok b := by
  cases x <;> simp [bind, Except.bind]

@[simp] theorem pure_eq_ok_iff {a b : α} : (pure a : Except ε α) = .ok b ↔ a = b := by
  simp [pure, Except.pure]

@[simp] theorem map_eq_ok_iff {x : Except ε α} {f : α → β} {b : β} :
    x.map f = .ok b ↔ ∃ a, x = .ok a ∧ f a = b := by
  cases x <;> simp [Except.map]

theorem map_eq_error_iff {x : Except ε α} {f : α → β} {e : ε} : x.map f = .error e ↔ x = .error e := by
  cases x <;> simp [Except.map]

@[simp] theorem functorMap_eq_ok_iff {x : Except ε α} {f : α → β} {b : β} :
    f <$> x = .ok b ↔ ∃ a, x = .ok a ∧ f a = b := map_eq_ok_iff

@[simp] theorem mapError_eq_ok_iff {x : Except ε α} {f : ε → ε'} {a : α} : x.mapError f = .ok a ↔ x = .ok a := by
  cases x with
  | error e => exact ⟨nofun, nofun⟩
  | ok b => exact ⟨fun h => by cases h; rfl, fun h => by cases h; rfl⟩

@[simp] theorem liftTag_eq_ok_iff {x : Except UnknownTag α} {a : α} :
    (liftM x : Except JobError α) = .ok a ↔ x = .ok a := mapError_eq_ok_iff

@[simp] theorem liftEncoding_eq_ok_iff {x : Except EncodingError α} {a : α} :
    (liftM x : Except JobError α) = .ok a ↔ x = .ok a := mapError_eq_ok_iff

@[simp] theorem liftCommand_eq_ok_iff {x : Except CommandError α} {a : α} :
    (liftM x : Except JobError α) = .ok a ↔ x = .ok a := mapError_eq_ok_iff

@[simp] theorem liftFrame_eq_ok_iff {x : Except Qr.FrameError α} {a : α} :
    (liftM x : Except JobError α) = .ok a ↔ x = .ok a := mapError_eq_ok_iff

end Steps

section Lists

variable {ε α β : Type}

theorem mapM_eq_ok_of_forall {f : α → Except ε β} {g : α → β} {xs : List α} (h : ∀ x ∈ xs, f x = .ok (g x)) :
    xs.mapM f = .ok (xs.map g) := by
  induction xs with
  | nil => rfl
  | cons x xs ih =>
    rw [List.mapM_cons, h x (List.mem_cons_self ..), ih fun y hy => h y (List.mem_cons_of_mem _ hy)]
    rfl

theorem exists_ok_of_mapM {f : α → Except ε β} {xs : List α} {ys : List β} (h : xs.mapM f = .ok ys) :
    ∀ x ∈ xs, ∃ y, f x = .ok y := by
  induction xs generalizing ys with
  | nil => simp
  | cons x xs ih =>
    simp only [List.mapM_cons, bind_eq_ok_iff] at h
    obtain ⟨y, hy, rest, hrest, -⟩ := h
    intro z hz
    rcases List.mem_cons.1 hz with rfl | hz
    · exact ⟨y, hy⟩
    · exact ih hrest z hz

theorem exists_error_of_mapM {f : α → Except ε β} {e : ε} {xs : List α} (h : xs.mapM f = .error e) :
    ∃ x ∈ xs, f x = .error e := by
  induction xs with
  | nil => cases h
  | cons x xs ih =>
    rw [List.mapM_cons] at h
    cases hx : f x with
    | error e' =>
      rw [hx] at h
      cases h
      exact ⟨x, List.mem_cons_self .., hx⟩
    | ok y =>
      cases hrest : xs.mapM f with
      | error e' =>
        rw [hx, hrest] at h
        cases h
        obtain ⟨z, hz, herror⟩ := ih hrest
        exact ⟨z, List.mem_cons_of_mem _ hz, herror⟩
      | ok ys =>
        rw [hx, hrest] at h
        cases h

theorem mapM_ne_nil {f : α → Except ε β} {xs : List α} {ys : List β} (h : xs.mapM f = .ok ys) (hxs : xs ≠ []) :
    ys ≠ [] := by
  obtain ⟨x, xs, rfl⟩ := List.exists_cons_of_ne_nil hxs
  simp only [List.mapM_cons, bind_eq_ok_iff, pure_eq_ok_iff] at h
  obtain ⟨y, -, rest, -, rfl⟩ := h
  simp

end Lists

end ThermalPress
