import KernelAudit.Validator.Sort

/-! The loop of trials. The sort validator and the search for lost elements go through their trials in one way and
    differ in what they object to, so whatever holds of every run of trials is proved of the one loop
    (`trialsUntil`). -/

namespace KernelAudit.Sorting

section
variable {m : Type → Type} [Monad m] {ρ β : Type} [Source ρ]

/-- The next `remaining` trials, up to the first one that meets an objection, with the number of the trial
    behind the last one and the source that is left. -/
def trialsUntil (judge : (trial : Nat) → (input output : Buffer) → Option β) (kernel : SortKernel m) (length : Nat) :
    (remaining trial : Nat) → ρ → Faulty m (Option β × Nat × ρ)
  | 0, trial, source => pure (none, trial, source)
  | remaining + 1, trial, source => do
    let (input, source) := fill length source
    let output ← kernel.sortBuffer input
    match judge trial input output with
    | some objection => pure (some objection, trial + 1, source)
    | none => trialsUntil judge kernel length remaining (trial + 1) source

/-- What the validator objects to. -/
def violation? (trial : Nat) (_ output : Buffer) : Option Violation := (firstDescent output).map (⟨trial, ·⟩)

/-- What the search for lost elements objects to. -/
def loss? (trial : Nat) (input output : Buffer) : Option Loss :=
  if ordered input.toList = ordered output.toList then none else some ⟨trial, input.toList, output.toList⟩

variable [LawfulMonad m] (kernel : SortKernel m) (length : Nat)

theorem runTrials_eq_trialsUntil (remaining trial : Nat) (source : ρ) :
    runTrials kernel length remaining trial source =
      (fun r => (⟨r.2.1, r.1⟩, r.2.2)) <$> trialsUntil violation? kernel length remaining trial source := by
  induction remaining generalizing trial source with
  | zero => simp [runTrials, trialsUntil]
  | succ remaining ih =>
    simp only [runTrials, trialsUntil, map_bind]
    refine bind_congr fun output => ?_
    cases hfirst : firstDescent output with
    | some d => simp [violation?, hfirst]
    | none => simp [violation?, hfirst, ih]

theorem searchTrials_eq_trialsUntil (remaining trial : Nat) (source : ρ) :
    searchTrials kernel length remaining trial source =
      (fun r => (r.1, r.2.2)) <$> trialsUntil loss? kernel length remaining trial source := by
  induction remaining generalizing trial source with
  | zero => simp [searchTrials, trialsUntil]
  | succ remaining ih =>
    simp only [searchTrials, trialsUntil, map_bind]
    refine bind_congr fun output => ?_
    by_cases hkept : ordered (fill length source).1.toList = ordered output.toList
    · simp [loss?, hkept, ih]
    · simp [loss?, hkept]

variable {judge : (trial : Nat) → (input output : Buffer) → Option β}

/-- A run is its first trials, followed by the others unless there has been an objection. -/
theorem trialsUntil_add (first more trial : Nat) (source : ρ) :
    trialsUntil judge kernel length (first + more) trial source = (do
      let r ← trialsUntil judge kernel length first trial source
      if r.1.isSome then pure r else trialsUntil judge kernel length more (trial + first) r.2.2) := by
  induction first generalizing trial source with
  | zero => simp [trialsUntil]
  | succ first ih =>
    rw [Nat.add_right_comm]
    simp only [trialsUntil, bind_assoc]
    refine bind_congr fun output => ?_
    cases judge trial (fill length source).1 output with
    | some objection => simp
    | none => simp only [ih, Nat.add_assoc, Nat.add_comm 1]

end

end KernelAudit.Sorting
