import KernelAudit.Validator.Sort
import Mathlib.Data.List.Chain

/-! What the two judgements of a sorted buffer say. The scan of adjacent pairs finds nothing exactly if
    the whole buffer is in order, and two buffers have the same values in increasing order exactly if
    one is a rearrangement of the other. A buffer that passes both is the arrangement of the input. -/

namespace KernelAudit.Sorting

/-- `output` holds the values of `input` in nondecreasing order. -/
def Arranges (input output : Buffer) : Prop :=
  output.toList.Pairwise (· ≤ ·) ∧ output.toList.Perm input.toList

/-! ### Descents -/

theorem firstDescentFrom_eq_none_iff_isChain {index : Nat} {values : List Int32} :
    firstDescentFrom index values = none ↔ values.IsChain (· ≤ ·) := by
  fun_induction firstDescentFrom index values with
  | case1 index left right rest h =>
    have hne : ¬left ≤ right := Std.not_le.mpr h
    simp [hne]
  | case2 index left right rest h ih =>
    have hle : left ≤ right := Std.not_lt.mp h
    rw [ih, List.isChain_cons_cons]
    exact (and_iff_right hle).symm
  | case3 values _ h =>
    rcases values with _ | ⟨a, _ | ⟨b, rest⟩⟩
    · simp
    · simp
    · exact absurd rfl (h a b rest)

/-- Order is transitive, so pairs side by side decide it. -/
theorem firstDescent_eq_none_iff {buffer : Buffer} :
    firstDescent buffer = none ↔ buffer.toList.Pairwise (· ≤ ·) := by
  have : @Trans Int32 Int32 Int32 (· ≤ ·) (· ≤ ·) (· ≤ ·) := ⟨Std.le_trans⟩
  rw [firstDescent, firstDescentFrom_eq_none_iff_isChain, List.isChain_iff_pairwise]

/-! ### Rearrangements -/

theorem ordered_perm (values : List Int32) : (ordered values).Perm values := List.mergeSort_perm _ _

theorem ordered_pairwise (values : List Int32) : (ordered values).Pairwise (· ≤ ·) := by
  refine (List.pairwise_mergeSort ?_ ?_ values).imp of_decide_eq_true
  · intro a b c hab hbc
    exact decide_eq_true (Std.le_trans (of_decide_eq_true hab) (of_decide_eq_true hbc))
  · intro a b
    rw [Bool.or_eq_true, decide_eq_true_eq, decide_eq_true_eq]
    exact Std.le_total

theorem eq_of_pairwise_of_perm {xs ys : List Int32} (hx : xs.Pairwise (· ≤ ·)) (hy : ys.Pairwise (· ≤ ·))
    (h : xs.Perm ys) : xs = ys :=
  h.eq_of_pairwise (fun _ _ _ _ => Std.le_antisymm) hx hy

theorem ordered_eq_iff_perm {xs ys : List Int32} : ordered xs = ordered ys ↔ xs.Perm ys := by
  constructor
  · intro h
    exact (ordered_perm xs).symm.trans (h ▸ ordered_perm ys)
  · intro h
    exact eq_of_pairwise_of_perm (ordered_pairwise xs) (ordered_pairwise ys)
      ((ordered_perm xs).trans (h.trans (ordered_perm ys).symm))

end KernelAudit.Sorting
