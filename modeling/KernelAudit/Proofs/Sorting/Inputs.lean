import KernelAudit.Validator.Sort

/-! The inputs of a run of trials. A source is a stream of values, and the input of a trial is a block
    of it: trial `t` of buffers of a length takes the values from number `t * length` on, one for each
    slot, whatever became of the buffers before. -/

namespace KernelAudit

namespace Source
variable {ρ : Type} [Source ρ]

/-- The value of the draw that has the given number. -/
def value : (number : Nat) → ρ → Draw
  | 0, r => (draw r).1
  | n + 1, r => value n (draw r).2

/-- The source after a number of draws. -/
def after : (count : Nat) → ρ → ρ
  | 0, r => r
  | n + 1, r => after n (draw r).2

theorem take_eq (count : Nat) (r : ρ) :
    take count r = ((List.range count).map fun n => value n r, after count r) := by
  induction count generalizing r with
  | zero => rfl
  | succ count ih =>
    have hrest := ih (draw r).2
    simp only [take, hrest, List.range_succ_eq_map, List.map_cons, List.map_map]
    rfl

theorem value_after (number count : Nat) (r : ρ) : value number (after count r) = value (count + number) r := by
  induction count generalizing r with
  | zero => rw [after, Nat.zero_add]
  | succ count ih => rw [after, ih, Nat.succ_add, value]

theorem after_after (more count : Nat) (r : ρ) : after more (after count r) = after (count + more) r := by
  induction count generalizing r with
  | zero => rw [after, Nat.zero_add]
  | succ count ih => rw [after, ih, Nat.succ_add, after]

end Source

namespace Sorting
variable {ρ : Type} [Source ρ]

/-- The input of a trial, all buffers of the run having the same length. -/
def input (length : Nat) (source : ρ) (trial : Nat) : Buffer :=
  ((List.range length).map fun slot => (Source.value (trial * length + slot) source).val).toArray

theorem size_input (length : Nat) (source : ρ) (trial : Nat) : (input length source trial).size = length := by
  simp [input]

theorem nonneg_of_mem_input {length : Nat} {source : ρ} {trial : Nat} {value : Int32}
    (h : value ∈ input length source trial) : 0 ≤ value := by
  rw [input, List.mem_toArray] at h
  obtain ⟨slot, -, rfl⟩ := List.mem_map.mp h
  exact (Source.value _ source).property

/-- Filling a buffer after so many trials takes the next block and nothing more. -/
theorem fill_after (length : Nat) (source : ρ) (trial : Nat) :
    fill length (Source.after (trial * length) source) =
      (input length source trial, Source.after ((trial + 1) * length) source) := by
  have hval : ∀ slot, Source.value slot (Source.after (trial * length) source) =
      Source.value (trial * length + slot) source := fun slot => Source.value_after ..
  simp only [fill, Source.take_eq, Source.after_after, hval, List.map_map, input, Nat.succ_mul,
    Function.comp_def]

end Sorting

end KernelAudit
