import KernelAudit.Proofs.Sorting.Inputs
import KernelAudit.Proofs.Sorting.Loop

/-! Both loops of trials on a kernel whose answers depend on the buffer alone. Whatever else the kernel
    does is kept apart as `act`, so the loops come down to three things: which trials take place, what
    the kernel does besides on their inputs, and the first trial that the judgement objects to. -/

namespace KernelAudit

variable {m : Type → Type} [Monad m]

/-- On buffers of the given length the kernel computes `f`; `act` is what it does besides. -/
def SortKernel.Computes (kernel : SortKernel m) (length : Nat) (act : Buffer → m Unit)
    (f : Buffer → Buffer) : Prop :=
  ∀ b : Buffer, b.size = length →
    kernel.sortBuffer b = (do ExceptT.lift (act b); pure (f b) : Faulty m Buffer)

namespace Sorting

/-! ### Which trials take place -/

/-- How many trials take place from the number `trial` on: the first objection ends the run. -/
def trialsUpTo {β : Type} (judge : Nat → Option β) : (remaining trial : Nat) → Nat
  | 0, _ => 0
  | remaining + 1, trial =>
    if (judge trial).isSome then 1 else trialsUpTo judge remaining (trial + 1) + 1

/-- A trial takes place exactly if it is one of those asked for and none before it met an objection. -/
theorem lt_trialsUpTo_iff {β : Type} {judge : Nat → Option β} {remaining trial t : Nat} (ht : trial ≤ t) :
    t < trial + trialsUpTo judge remaining trial ↔
      t < trial + remaining ∧ ∀ u, trial ≤ u → u < t → judge u = none := by
  induction remaining generalizing trial with
  | zero =>
    have : ¬t < trial := by omega
    simp [trialsUpTo, this]
  | succ remaining ih =>
    cases hj : judge trial with
    | some objection =>
      simp only [trialsUpTo, hj, Option.isSome_some, if_true]
      constructor
      · intro h
        exact ⟨by omega, fun u _ _ => by omega⟩
      · rintro ⟨-, h⟩
        refine Nat.lt_of_not_le fun hle => ?_
        have := h trial (Nat.le_refl _) hle
        rw [hj] at this
        cases this
    | none =>
      simp only [trialsUpTo, hj, Option.isSome_none, Bool.false_eq_true, if_false]
      rcases Nat.eq_or_lt_of_le ht with rfl | hlt
      · exact iff_of_true (by omega) ⟨by omega, fun u _ _ => by omega⟩
      · have := @ih (trial + 1) hlt
        constructor
        · intro h
          obtain ⟨hr, hu⟩ := this.mp (by omega)
          refine ⟨by omega, fun u h1 h2 => ?_⟩
          rcases Nat.eq_or_lt_of_le h1 with rfl | h1
          · exact hj
          · exact hu u h1 h2
        · rintro ⟨hr, hu⟩
          have := this.mpr ⟨by omega, fun u h1 h2 => hu u (by omega) h2⟩
          omega

/-- The first objection among the next trials. -/
def firstObjection {β : Type} (judge : Nat → Option β) (remaining trial : Nat) : Option β :=
  (List.range' trial remaining).findSome? judge

theorem firstObjection_eq_none_iff {β : Type} {judge : Nat → Option β} {remaining : Nat} :
    firstObjection judge remaining 0 = none ↔ ∀ t < remaining, judge t = none := by
  simp [firstObjection, List.findSome?_eq_none_iff, List.mem_range'_1]

/-! ### The loops -/

section
variable {ρ : Type} [Source ρ] (f : Buffer → Buffer) (length : Nat) (source : ρ)

/-- The objection of the sort validator to a trial. -/
def disorder (t : Nat) : Option Violation :=
  (firstDescent (f (input length source t))).map fun d => ⟨t, d⟩

/-- The objection of the search for lost elements to a trial. -/
def loss (t : Nat) : Option Loss :=
  let before := input length source t
  if ordered before.toList = ordered (f before).toList then none
  else some ⟨t, before.toList, (f before).toList⟩

variable {f length source} {kernel : SortKernel m} {act : Buffer → m Unit}

/-- The inputs of a run of `count` trials from the number `trial` on, handed over one after the other. -/
def handOver (act : Buffer → m Unit) (length : Nat) (source : ρ) (trial count : Nat) : m Unit :=
  forM ((List.range' trial count).map (input length source)) act

theorem handOver_succ (trial count : Nat) :
    handOver act length source trial (count + 1) = (do
      act (input length source trial)
      handOver act length source (trial + 1) count) := by
  simp only [handOver, List.range'_succ, List.map_cons, List.forM_cons]

theorem trialsUntil_eq [LawfulMonad m] {β : Type} {judge : (trial : Nat) → (input output : Buffer) → Option β}
    (h : kernel.Computes length act f) (remaining trial : Nat) :
    trialsUntil judge kernel length remaining trial (Source.after (trial * length) source) = (do
      let objection (t : Nat) := judge t (input length source t) (f (input length source t))
      let count := trialsUpTo objection remaining trial
      ExceptT.lift (handOver act length source trial count)
      pure (firstObjection objection remaining trial, trial + count,
        Source.after ((trial + count) * length) source)) := by
  induction remaining generalizing trial with
  | zero => simp [trialsUntil, trialsUpTo, handOver, firstObjection]
  | succ remaining ih =>
    have hk := h _ (size_input length source trial)
    simp only [trialsUntil, fill_after, hk, bind_assoc, pure_bind]
    cases hj : judge trial (input length source trial) (f (input length source trial)) with
    | some objection => simp [trialsUpTo, firstObjection, List.range'_succ, hj, handOver]
    | none => simp [trialsUpTo, firstObjection, List.range'_succ, hj, handOver_succ, ih, Nat.add_assoc, Nat.add_comm 1]

theorem runTrials_eq [LawfulMonad m] (h : kernel.Computes length act f) (remaining trial : Nat) :
    runTrials kernel length remaining trial (Source.after (trial * length) source) = (do
      let count := trialsUpTo (disorder f length source) remaining trial
      ExceptT.lift (handOver act length source trial count)
      pure (⟨trial + count, firstObjection (disorder f length source) remaining trial⟩,
        Source.after ((trial + count) * length) source)) := by
  rw [runTrials_eq_trialsUntil, trialsUntil_eq h, map_bind]
  simp only [map_pure]
  rfl

theorem searchTrials_eq [LawfulMonad m] (h : kernel.Computes length act f) (remaining trial : Nat) :
    searchTrials kernel length remaining trial (Source.after (trial * length) source) = (do
      let count := trialsUpTo (loss f length source) remaining trial
      ExceptT.lift (handOver act length source trial count)
      pure (firstObjection (loss f length source) remaining trial,
        Source.after ((trial + count) * length) source)) := by
  rw [searchTrials_eq_trialsUntil, trialsUntil_eq h, map_bind]
  simp only [map_pure]
  rfl

end

end Sorting

end KernelAudit
