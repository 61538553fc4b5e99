import Mathlib.Logic.Basic

/-! Computations that may fail, taken apart into their steps. -/

namespace KernelAudit

variable {ε ε' α β : Type} {e : ε} {a : α} {b : β}

theorem ok_bind (a : α) (f : α → Except ε β) : (Except.ok a >>= f) = f a := rfl

/-- A sequence succeeds if each of its steps does. -/
theorem bind_eq_ok {x : Except ε α} {f : α → Except ε β} :
    (x >>= f) = .ok b ↔ ∃ a, x = .ok a ∧ f a = .ok b := by
  constructor
  · intro h
    rcases x with _ | a
    · cases h
    · exact ⟨a, rfl, h⟩
  · rintro ⟨a, rfl, h⟩
    exact h

/-- What comes behind a check is reached if nothing is found. -/
theorem ite_error_eq_ok {p : Prop} [Decidable p] {x : Except ε α} :
    (if p then .error e else x) = .ok a ↔ ¬p ∧ x = .ok a := by
  by_cases hp : p
  · rw [if_pos hp]
    exact ⟨nofun, fun h => absurd hp h.1⟩
  · rw [if_neg hp]
    exact ⟨fun h => ⟨hp, h⟩, And.right⟩

theorem ite_throw_bind_eq_ok {p : Prop} [Decidable p] {f : α → Except ε β} {x : Except ε β} :
    (if p then throw e >>= f else x) = .ok b ↔ ¬p ∧ x = .ok b :=
  ite_error_eq_ok

theorem mapError_ok (f : ε → ε') (a : α) : (Except.ok a).mapError f = .ok a := rfl

theorem mapError_error (f : ε → ε') (e : ε) : (Except.error e : Except ε α).mapError f = .error (f e) := rfl

theorem mapError_eq_ok {x : Except ε α} {f : ε → ε'} : x.mapError f = .ok a ↔ x = .ok a := by
  cases x with
  | error e => exact ⟨nofun, nofun⟩
  | ok b =>
    constructor
    · rintro ⟨⟩
      rfl
    · rintro ⟨⟩
      rfl

theorem map_eq_ok {x : Except ε α} {f : α → β} : x.map f = .ok b ↔ ∃ a, x = .ok a ∧ f a = b := by
  constructor
  · intro h
    rcases x with _ | a
    · cases h
    · exact ⟨a, rfl, Except.ok.inj h⟩
  · rintro ⟨a, rfl, rfl⟩
    rfl

theorem map_eq_error {x : Except ε α} {f : α → β} : x.map f = .error e ↔ x = .error e := by
  cases x with
  | error e' =>
    constructor
    · rintro ⟨⟩
      rfl
    · rintro ⟨⟩
      rfl
  | ok a => exact ⟨nofun, nofun⟩

/-! ### On a machine -/

section
variable {σ : Type} {x : ExceptT ε (StateM σ) α} {f : α → ExceptT ε (StateM σ) β} {s s' : σ}

theorem run_bind_of_ok (h : x.run.run s = (.ok a, s')) : (x >>= f).run.run s = (f a).run.run s' := by
  rw [ExceptT.run_bind, StateT.run_bind, h]
  rfl

theorem run_bind_of_error (h : x.run.run s = (.error e, s')) : (x >>= f).run.run s = (.error e, s') := by
  rw [ExceptT.run_bind, StateT.run_bind, h]
  rfl

/-- What cannot fail goes as it goes by itself. -/
theorem run_lift_of_run {y : StateM σ α} (h : y.run s = (a, s')) :
    (liftM y : ExceptT ε (StateM σ) α).run.run s = (.ok a, s') := by
  have hlift : (liftM y : ExceptT ε (StateM σ) α).run = .ok <$> y := rfl
  rw [hlift, StateT.run_map, h]
  rfl

end

theorem eq_ok_of_isOk {outcome : Except ε Unit} (h : outcome.isOk = true) : outcome = .ok () := by
  cases outcome with
  | error e => cases h
  | ok _ => rfl

end KernelAudit
