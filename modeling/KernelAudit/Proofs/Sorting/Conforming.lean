import KernelAudit.Kernel.Reference
import KernelAudit.Proofs.Kernel.Ranges
import KernelAudit.Proofs.Sorting.Agreement

/-! Kernels that arrange whatever they are given, the built-in one among them. Neither loop of trials has
    an objection to them, so both come to their ends whatever the values are that they draw. -/

namespace KernelAudit

variable {m : Type → Type} [Monad m] [LawfulMonad m]

/-! ### Runs without an objection -/

/-- The kernel does nothing but arrange the buffers of a length. -/
def SortKernel.Conforms (kernel : SortKernel m) (length : Nat) : Prop :=
  ∃ f, kernel.Computes length (fun _ => pure ()) f ∧ ∀ b, b.size = length → Sorting.Arranges b (f b)

namespace Sorting

theorem trialsUpTo_eq_of_forall_none {β : Type} {judge : Nat → Option β} (h : ∀ t, judge t = none)
    (remaining trial : Nat) : trialsUpTo judge remaining trial = remaining := by
  induction remaining generalizing trial with
  | zero => rfl
  | succ remaining ih => simp [trialsUpTo, h, ih]

theorem handOver_pure {ρ : Type} [Source ρ] (length : Nat) (source : ρ) (trial count : Nat) :
    handOver (fun _ => pure ()) length source trial count = (pure () : m Unit) := by
  induction count generalizing trial with
  | zero => simp [handOver]
  | succ count ih => rw [handOver_succ, ih, pure_bind]

variable {kernel : SortKernel m} {config : Config}

section
variable {ρ : Type} [Source ρ] (h : kernel.Conforms config.bufferLen) (source : ρ)
include h

/-- The sort validator passes with all its trials run, whatever it draws. -/
theorem validate_of_conforms : validate kernel config source =
    pure (⟨config.trials, none⟩, Source.after (config.trials * config.bufferLen) source) := by
  obtain ⟨f, hf, harr⟩ := h
  have hnone : ∀ t, disorder f config.bufferLen source t = none := fun t =>
    disorder_eq_none_iff.mpr (harr _ (size_input ..)).1
  have hrun : runTrials kernel config.bufferLen config.trials 0 (Source.after (0 * config.bufferLen) source) = _ :=
    runTrials_eq hf config.trials 0
  simp only [Nat.zero_mul, Source.after, Nat.zero_add, trialsUpTo_eq_of_forall_none hnone, handOver_pure,
    firstObjection_eq_none_iff.mpr fun t _ => hnone t] at hrun
  rw [validate, hrun]
  simp

/-- The search for lost elements finds none. -/
theorem findLoss_of_conforms : findLoss kernel config source =
    pure (none, Source.after (config.trials * config.bufferLen) source) := by
  obtain ⟨f, hf, harr⟩ := h
  have hnone : ∀ t, loss f config.bufferLen source t = none := fun t =>
    loss_eq_none_iff.mpr (harr _ (size_input ..)).2
  have hrun : searchTrials kernel config.bufferLen config.trials 0 (Source.after (0 * config.bufferLen) source) = _ :=
    searchTrials_eq hf config.trials 0
  simp only [Nat.zero_mul, Source.after, Nat.zero_add, trialsUpTo_eq_of_forall_none hnone, handOver_pure,
    firstObjection_eq_none_iff.mpr fun t _ => hnone t] at hrun
  rw [findLoss, hrun]
  simp

end

theorem validateSeeded_of_conforms (h : kernel.Conforms config.bufferLen) (entropy : Key) :
    validateSeeded kernel config entropy = pure ⟨config.trials, none⟩ := by
  rw [validateSeeded, validate_of_conforms h, map_pure]

end Sorting

/-! ### The built-in kernel -/

namespace Reference

/-- The buffer, sorted over its whole length. -/
def sorted (b : Buffer) : Buffer :=
  (QuickSort.sortRange b.toVector 0 (b.size - 1) (Int.le_refl _) (by omega)).toArray

theorem arranges_sorted (b : Buffer) : Sorting.Arranges b (sorted b) := by
  constructor
  · have hsorted := QuickSort.sortedBetween_sortRange b.toVector 0 (b.size - 1) (Int.le_refl _) (by omega)
    rw [List.pairwise_iff_getElem]
    intro i j hi hj hij
    have hsize : (sorted b).toList.length = b.size := by simp [sorted]
    exact hsorted i j (by omega) (by omega) (by omega) (by omega) (by omega)
  · have hperm := (QuickSort.rearranged_sortRange b.toVector 0 (b.size - 1) (Int.le_refl _) (by omega)).perm
    exact Array.perm_iff_toList_perm.mp hperm.toArray

theorem conforms_sort {length : Nat} (h : length ≤ Sorting.Config.maxLength) :
    (kernels.sort : SortKernel m).Conforms length := by
  refine ⟨sorted, fun b hb => ?_, fun b _ => arranges_sorted b⟩
  have hsort : quickSort b 0 (lastIndex b.size).toInt = .ok (sorted b) := by
    rw [toInt_lastIndex (hb ▸ h)]
    exact quickSort_eq_ok (Int.le_refl _) (by omega)
  apply ExceptT.ext
  rw [SortKernel.run_sortBuffer, run_sort, Int32.toInt_zero, hsort]
  simp [Except.map]

end Reference

end KernelAudit
