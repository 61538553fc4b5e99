import KernelAudit.Proofs.Except
import KernelAudit.Proofs.Sorting.Course

/-! Runs of trials in two parts. All that one trial hands on to the next is the state of the kernel and the source
    of the values, so a run is a shorter run that is continued where that one left off, unless it has met an
    objection; only the trials of the second part are counted anew. -/

namespace KernelAudit.Sorting

/-- The violation, so many trials later. -/
def Violation.delayed (trials : Nat) (v : Violation) : Violation := { v with trial := v.trial + trials }

/-- The outcome of trials that come behind so many others. -/
def Outcome.delayed (trials : Nat) (o : Outcome) : Outcome :=
  ⟨o.trialsRun + trials, o.violation.map (.delayed trials)⟩

/-- The loss, so many trials later. -/
def Loss.delayed (trials : Nat) (l : Loss) : Loss := { l with trial := l.trial + trials }

section
variable {m : Type → Type} [Monad m] [LawfulMonad m] {ρ β : Type} [Source ρ] (kernel : SortKernel m) (length : Nat)
  {judge : (trial : Nat) → (input output : Buffer) → Option β}

theorem violation?_delayed (earlier trial : Nat) (input output : Buffer) :
    violation? (trial + earlier) input output = (violation? trial input output).map (.delayed earlier) := by
  rw [violation?, violation?, Option.map_map]
  rfl

theorem loss?_delayed (earlier trial : Nat) (input output : Buffer) :
    loss? (trial + earlier) input output = (loss? trial input output).map (.delayed earlier) := by
  unfold loss?
  split <;> rfl

/-- Numbering the trials differently changes the numbers only. -/
theorem trialsUntil_delayed {earlier : Nat} {delay : β → β}
    (hjudge : ∀ trial input output, judge (trial + earlier) input output = (judge trial input output).map delay)
    (remaining trial : Nat) (source : ρ) :
    trialsUntil judge kernel length remaining (trial + earlier) source =
      (fun r => (r.1.map delay, r.2.1 + earlier, r.2.2)) <$>
        trialsUntil judge kernel length remaining trial source := by
  induction remaining generalizing trial source with
  | zero => simp [trialsUntil]
  | succ remaining ih =>
    simp only [trialsUntil, map_bind, hjudge]
    refine bind_congr fun output => ?_
    cases judge trial (fill length source).1 output with
    | some objection => simp [Nat.add_right_comm]
    | none => simpa [Nat.add_right_comm] using ih (trial + 1) _

/-! ### Runs that are resumed -/

/-- A run on what another one leaves, unless that one has `found` something. -/
def resumed {α : Type} (found : α → Bool) (delay : α → α) (run : Faulty m (α × ρ))
    (later : ρ → Faulty m (α × ρ)) : Faulty m (α × ρ) := do
  let r ← run
  if found r.1 then pure r else (fun r => (delay r.1, r.2)) <$> later r.2

theorem validate_add (config : Config) (first more : Nat) (source : ρ) :
    validate kernel { config with trials := first + more } source =
      resumed (·.violation.isSome) (.delayed first) (validate kernel { config with trials := first } source)
        (validate kernel { config with trials := more }) := by
  have hdelayed (source : ρ) :=
    trialsUntil_delayed kernel config.bufferLen (violation?_delayed first) more 0 source
  rw [Nat.zero_add] at hdelayed
  simp only [validate, resumed, runTrials_eq_trialsUntil, trialsUntil_add, map_bind, bind_map_left]
  refine bind_congr fun r => ?_
  rcases r with ⟨_ | violation, trial, left⟩
  · simp [hdelayed, Outcome.delayed]
  · simp

theorem findLoss_add (config : Config) (first more : Nat) (source : ρ) :
    findLoss kernel { config with trials := first + more } source =
      resumed Option.isSome (Option.map (.delayed first)) (findLoss kernel { config with trials := first } source)
        (findLoss kernel { config with trials := more }) := by
  have hdelayed (source : ρ) := trialsUntil_delayed kernel config.bufferLen (loss?_delayed first) more 0 source
  rw [Nat.zero_add] at hdelayed
  simp only [findLoss, resumed, searchTrials_eq_trialsUntil, trialsUntil_add, map_bind, bind_map_left]
  refine bind_congr fun r => ?_
  rcases r with ⟨_ | loss, trial, left⟩
  · simp [hdelayed]
  · simp

end

section
variable {α σ ρ : Type} {found : α → Bool} {delay : α → α} {run : Faulty (StateM σ) (α × ρ)}
  {later : ρ → Faulty (StateM σ) (α × ρ)} {s s' : σ}

theorem run_resumed {a : α} {source : ρ} (hrun : run.run.run s = (.ok (a, source), s')) :
    (resumed found delay run later).run.run s =
      if found a then (.ok (a, source), s')
      else (((later source).run.run s').1.map fun r => (delay r.1, r.2), ((later source).run.run s').2) := by
  have hstep : (resumed found delay run later).run.run s =
      (if found a then pure (a, source) else (fun r => (delay r.1, r.2)) <$> later source :
        Faulty (StateM σ) (α × ρ)).run.run s' := by
    rw [resumed, run_bind_of_ok hrun]
  rw [hstep]
  split
  · rfl
  · rw [ExceptT.run_map]
    rfl

theorem run_resumed_of_fault {fault : Fault} (hrun : run.run.run s = (.error fault, s')) :
    (resumed found delay run later).run.run s = (.error fault, s') := by
  rw [resumed, run_bind_of_error hrun]

end

/-- Trials compose, for any kernel and any source, whatever states both are in. A run of the validator that has
    found a violation comes to the same with more trials, down to the state of the kernel and the source. One
    that has found none goes on as a run of the other trials does on the kernel and the source that it left,
    with the trials counted on. The search for lost elements keeps the same law; and a fault ends a longer run
    where it ends a shorter one. -/
theorem trials_compose {σ ρ : Type} [Source ρ] (kernel : SortKernel (StateM σ)) (config : Config) (first more : Nat)
    (source : ρ) (s : σ) :
    let validated := fun trials (source : ρ) s => (validate kernel { config with trials } source).run.run s
    let searched := fun trials (source : ρ) s => (findLoss kernel { config with trials } source).run.run s
    (∀ outcome left s', validated first source s = (.ok (outcome, left), s') →
      (outcome.violation.isSome → validated (first + more) source s = (.ok (outcome, left), s')) ∧
      (outcome.violation = none → validated (first + more) source s =
        ((validated more left s').1.map fun r => (r.1.delayed first, r.2), (validated more left s').2))) ∧
    (∀ loss left s', searched first source s = (.ok (loss, left), s') →
      (loss.isSome → searched (first + more) source s = (.ok (loss, left), s')) ∧
      (loss = none → searched (first + more) source s =
        ((searched more left s').1.map fun r => (r.1.map (.delayed first), r.2), (searched more left s').2))) ∧
    ∀ fault s',
      (validated first source s = (.error fault, s') → validated (first + more) source s = (.error fault, s')) ∧
      (searched first source s = (.error fault, s') → searched (first + more) source s = (.error fault, s')) := by
  intro validated searched
  have hvalidated : validated (first + more) source s = _ :=
    congrArg (fun run => run.run.run s) (validate_add kernel config first more source)
  have hsearched : searched (first + more) source s = _ :=
    congrArg (fun run => run.run.run s) (findLoss_add kernel config first more source)
  refine ⟨fun outcome left s' hrun => ?_, fun loss left s' hrun => ?_, fun fault s' => ⟨fun hrun => ?_, fun hrun => ?_⟩⟩
  · rw [hvalidated, run_resumed hrun]
    refine ⟨fun hfound => if_pos hfound, fun hnone => if_neg ?_⟩
    rw [hnone]
    exact Bool.false_ne_true
  · rw [hsearched, run_resumed hrun]
    refine ⟨fun hfound => if_pos hfound, fun hnone => if_neg ?_⟩
    rw [hnone]
    exact Bool.false_ne_true
  · exact hvalidated.trans (run_resumed_of_fault hrun)
  · exact hsearched.trans (run_resumed_of_fault hrun)

/-- The two buffers that the kernel leaves alone take up the first part of the run; it is the first one of the
    second part that is reversed. -/
theorem trials_compose_sample :
    let validated := fun trials (source : Counting) s => (validate wearySort ⟨trials, 3, none⟩ source).run.run s
    validated 2 ⟨0⟩ 0 = (.ok (⟨2, none⟩, ⟨6⟩), 2) ∧ validated 3 ⟨6⟩ 2 = (.ok (⟨1, some ⟨0, ⟨0, 8, 7⟩⟩⟩, ⟨9⟩), 3) ∧
      validated 5 ⟨0⟩ 0 = (.ok (⟨3, some ⟨2, ⟨0, 8, 7⟩⟩⟩, ⟨9⟩), 3) := by
  intro validated
  have hfirst : validated 2 ⟨0⟩ 0 = (.ok (⟨2, none⟩, ⟨6⟩), 2) := rfl
  have hmore : validated 3 ⟨6⟩ 2 = (.ok (⟨1, some ⟨0, ⟨0, 8, 7⟩⟩⟩, ⟨9⟩), 3) := by
    with_unfolding_all rfl
  obtain ⟨hvalidated, -⟩ := trials_compose wearySort ⟨0, 3, none⟩ 2 3 (⟨0⟩ : Counting) 0
  have hall : validated 5 ⟨0⟩ 0 =
      ((validated 3 ⟨6⟩ 2).1.map fun r => (r.1.delayed 2, r.2), (validated 3 ⟨6⟩ 2).2) :=
    (hvalidated _ _ _ hfirst).2 rfl
  refine ⟨hfirst, hmore, ?_⟩
  rw [hall, hmore]
  rfl

end KernelAudit.Sorting
