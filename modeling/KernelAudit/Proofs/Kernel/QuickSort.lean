import KernelAudit.Kernel.QuickSort

/-! Quicksort sorts. Everything it does to a vector is to swap elements of the range it was given
    (`Rearranged`), so what lies outside stays where it is, and what is true of all elements of a range
    stays true of them while they are sorted. -/

namespace KernelAudit
namespace QuickSort

variable {n : Nat}

/-! ### Rearranging a range -/

/-- The second vector comes from the first one by swaps of elements between `low` and `high`. -/
inductive Rearranged (low high : Int) (v : Vector Int32 n) : Vector Int32 n → Prop
  | refl : Rearranged low high v v
  | swap {w : Vector Int32 n} {i j : Nat} (h : Rearranged low high v w) (hi : low ≤ i ∧ i ≤ high)
      (hj : low ≤ j ∧ j ≤ high) (hin : i < n) (hjn : j < n) : Rearranged low high v (w.swap i j)

namespace Rearranged
variable {low high low' high' : Int} {u v w : Vector Int32 n} {k : Nat}

theorem trans (h : Rearranged low high u v) (h' : Rearranged low high v w) : Rearranged low high u w := by
  induction h' with
  | refl => exact h
  | swap _ hi hj hin hjn ih => exact ih.swap hi hj hin hjn

theorem widen (h : Rearranged low high v w) (hl : low' ≤ low) (hh : high ≤ high') :
    Rearranged low' high' v w := by
  induction h with
  | refl => exact .refl
  | swap _ hi hj hin hjn ih => exact ih.swap (by omega) (by omega) hin hjn

theorem perm (h : Rearranged low high v w) : w.Perm v := by
  induction h with
  | refl => exact .refl _
  | swap _ _ _ hin hjn ih => exact (Vector.swap_perm hin hjn).trans ih

theorem getElem_outside (h : Rearranged low high v w) (hk : k < n) (hout : k < low ∨ high < k) : w[k] = v[k] := by
  induction h with
  | refl => rfl
  | swap _ hi hj hin hjn ih => rw [Vector.getElem_swap_of_ne (by omega) (by omega), ih]

/-- What is true of all elements of the range stays true of them. -/
theorem forall_inside (h : Rearranged low high v w) (P : Int32 → Prop)
    (hv : ∀ k (hk : k < n), low ≤ k → k ≤ high → P v[k]) :
    ∀ k (hk : k < n), low ≤ k → k ≤ high → P w[k] := by
  induction h with
  | refl => exact hv
  | @swap w i j _ hi hj hin hjn ih =>
    intro k hk hl hh
    rw [Vector.getElem_swap hin hjn hk]
    split
    · exact ih j hjn hj.1 hj.2
    · split
      · exact ih i hin hi.1 hi.2
      · exact ih k hk hl hh

end Rearranged

/-! ### Partitions -/

/-- From `store` up to `high` what is at most the pivot has come to stand before `p`. -/
structure Gathered (pivot : Int32) (store high p : Nat) (v w : Vector Int32 n) : Prop where
  rearranged : Rearranged store (high - 1) v w
  before : ∀ k (hk : k < n), store ≤ k → k < p → w[k] ≤ pivot
  behind : ∀ k (hk : k < n), p ≤ k → k < high → pivot < w[k]

/-- Between `store` and `j` there are the elements that stay behind. -/
theorem gathered_gather (v : Vector Int32 n) (pivot : Int32) (store j high : Nat)
    (hs : store ≤ j) (hj : j ≤ high) (hh : high < n)
    (hbehind : ∀ k (hk : k < n), store ≤ k → k < j → pivot < v[k]) :
    Gathered pivot store high (gather v pivot store j high hs hj hh).1.val v
      (gather v pivot store j high hs hj hh).2 := by
  fun_induction gather v pivot store j high hs hj hh with
  | case1 v store j hs hj hlt hle p hp w heq ih =>
    rw [heq] at ih
    have hinner := ih fun k hk hkl hkh => by
      rw [Vector.getElem_swap (by omega) (by omega) hk, if_neg (by omega)]
      split
      · -- What stood at `store` stays behind, unless it is what has been moved.
        exact hbehind store (by omega) (Nat.le_refl _) (by omega)
      · exact hbehind k hk (by omega) (by omega)
    have hswap : Rearranged store (high - 1) v (v.swap store j (by omega) (by omega)) :=
      Rearranged.refl.swap (by omega) (by omega) (by omega) (by omega)
    refine ⟨hswap.trans (hinner.rearranged.widen (by omega) (Int.le_refl _)), fun k hk hkl hkh => ?_, hinner.behind⟩
    rcases Nat.eq_or_lt_of_le hkl with rfl | hkl
    · rwa [hinner.rearranged.getElem_outside hk (by omega), Vector.getElem_swap_left (by omega) (by omega)]
    · exact hinner.before k hk hkl hkh
  | case2 v store j hs hj hlt hgt ih =>
    refine ih fun k hk hkl hkh => ?_
    rcases Nat.eq_or_lt_of_le (Nat.le_of_lt_succ hkh) with rfl | hkh
    · exact Std.not_le.mp hgt
    · exact hbehind k hk hkl hkh
  | case3 v store j hs hj hlt =>
    refine ⟨.refl, fun k hk hkl hkh => absurd hkh (Nat.not_lt_of_le hkl), fun k hk hkl hkh => ?_⟩
    exact hbehind k hk hkl (by omega)

/-- The range is split around what was its last element, which has come to stand at `p`. -/
structure Partitioned (low high p : Nat) (v w : Vector Int32 n) : Prop where
  rearranged : Rearranged low high v w
  pivot : ∀ (hp : p < n) (hh : high < n), w[p] = v[high]
  before : ∀ k (hk : k < n) (hp : p < n), low ≤ k → k < p → w[k] ≤ w[p]
  behind : ∀ k (hk : k < n) (hp : p < n), p < k → k ≤ high → w[p] < w[k]

theorem partitioned_partition (v : Vector Int32 n) (low high : Nat) (hl : low ≤ high) (hh : high < n) :
    Partitioned low high (partition v low high hl hh).1.val v (partition v low high hl hh).2 := by
  have hgather := gathered_gather v v[high] low low high (Nat.le_refl _) hl hh fun k hk hkl hkh => by omega
  unfold partition
  generalize gather v v[high] low low high (Nat.le_refl _) hl hh = r at hgather ⊢
  obtain ⟨⟨p, hp⟩, w⟩ := r
  dsimp only at hgather ⊢
  have hpn : p < n := by omega
  have hplace : (w.swap p high hpn hh)[p] = v[high] := by
    rw [Vector.getElem_swap_left, hgather.rearranged.getElem_outside hh (by omega)]
  refine ⟨?_, fun _ _ => hplace, fun k hk _ hkl hkh => ?_, fun k hk _ hkl hkh => ?_⟩
  · exact (hgather.rearranged.widen (Int.le_refl _) (by omega)).swap (by omega) (by omega) hpn hh
  · rw [hplace, Vector.getElem_swap_of_ne (by omega) (by omega)]
    exact hgather.before k hk hkl hkh
  · rw [hplace, Vector.getElem_swap hpn hh hk, if_neg (by omega)]
    split
    · exact hgather.behind p hpn (Nat.le_refl _) (by omega)
    · exact hgather.behind k hk (by omega) (by omega)

/-! ### Sorting a range -/

/-- The elements from `low` to `high` are in order. -/
def SortedBetween (low high : Int) (v : Vector Int32 n) : Prop :=
  ∀ i j (hi : i < n) (hj : j < n), low ≤ i → i ≤ j → j ≤ high → v[i] ≤ v[j]

theorem SortedBetween.of_halves {low high : Int} {p : Nat} {w : Vector Int32 n} (hp : p < n)
    (hleft : SortedBetween low (p - 1) w) (hright : SortedBetween (p + 1) high w)
    (hbefore : ∀ k (hk : k < n), low ≤ k → k < p → w[k] ≤ w[p])
    (hbehind : ∀ k (hk : k < n), p < k → k ≤ high → w[p] < w[k]) : SortedBetween low high w := by
  have hfrom : ∀ k (hk : k < n), p ≤ k → k ≤ high → w[p] ≤ w[k] := by
    intro k hk hkl hkh
    rcases Nat.eq_or_lt_of_le hkl with rfl | hkl
    · exact Std.le_refl _
    · exact Std.le_of_lt (hbehind k hk hkl hkh)
  intro i j hi hj hli hij hjh
  rcases Nat.lt_trichotomy i p with hip | rfl | hip
  · rcases Nat.lt_or_ge j p with hjp | hjp
    · exact hleft i j hi hj hli hij (by omega)
    · exact Std.le_trans (hbefore i hi hli hip) (hfrom j hj hjp hjh)
  · exact hfrom j hj hij hjh
  · exact hright i j hi hj (by omega) hij hjh

theorem rearranged_sortRange (v : Vector Int32 n) (low high : Int) (hl : 0 ≤ low) (hh : high < n) :
    Rearranged low high v (sortRange v low high hl hh) := by
  fun_induction sortRange v low high hl hh with
  | case1 v low high hl hh hlt p u hsplit left ihLeft ihRight =>
    have hpart : Partitioned low.toNat high.toNat p.val v u := by
      simpa only [hsplit] using partitioned_partition v low.toNat high.toNat (by omega) (by omega)
    have hu : Rearranged low high v u := hpart.rearranged.widen (by omega) (by omega)
    exact (hu.trans (ihLeft.widen (by omega) (by omega))).trans (ihRight.widen (by omega) (by omega))
  | case2 v low high hl hh hlt => exact .refl

theorem sortedBetween_sortRange (v : Vector Int32 n) (low high : Int) (hl : 0 ≤ low) (hh : high < n) :
    SortedBetween low high (sortRange v low high hl hh) := by
  fun_induction sortRange v low high hl hh with
  | case1 v low high hl hh hlt p u hsplit left ihLeft ihRight =>
    have hpart : Partitioned low.toNat high.toNat p.val v u := by
      simpa only [hsplit] using partitioned_partition v low.toNat high.toNat (by omega) (by omega)
    have hpn : p.val < n := by omega
    have hleft : Rearranged low (p.val - 1) u left := rearranged_sortRange u low (p.val - 1) hl (by omega)
    have hright := rearranged_sortRange left (p.val + 1) high (by omega) hh
    generalize sortRange left (p.val + 1) high (by omega) hh = w at ihRight hright ⊢
    -- Neither half reaches the place of the other one or of the pivot.
    have hpivot : w[p.val] = u[p.val] := by
      rw [hright.getElem_outside hpn (by omega), hleft.getElem_outside hpn (by omega)]
    have hkept : ∀ k (hk : k < n), k < p.val → w[k] = left[k] := fun k hk hkp =>
      hright.getElem_outside hk (by omega)
    have hbefore : ∀ k (hk : k < n), low ≤ k → k ≤ (p.val : Int) - 1 → left[k] ≤ u[p.val] :=
      hleft.forall_inside (· ≤ u[p.val]) fun k hk hkl hkh => hpart.before k hk hpn (by omega) (by omega)
    have hbehind : ∀ k (hk : k < n), (p.val : Int) + 1 ≤ k → k ≤ high → u[p.val] < w[k] := by
      refine hright.forall_inside (u[p.val] < ·) fun k hk hkl hkh => ?_
      rw [hleft.getElem_outside hk (by omega)]
      exact hpart.behind k hk hpn (by omega) (by omega)
    refine SortedBetween.of_halves hpn (fun i j hi hj hli hij hjh => ?_) ihRight (fun k hk hkl hkp => ?_)
      fun k hk hpk hkh => ?_
    · rw [hkept i hi (by omega), hkept j hj (by omega)]
      exact ihLeft i j hi hj hli hij hjh
    · rw [hkept k hk hkp, hpivot]
      exact hbefore k hk hkl (by omega)
    · rw [hpivot]
      exact hbehind k hk (by omega) hkh
  | case2 v low high hl hh hlt =>
    intro i j hi hj hli hij hjh
    obtain rfl : i = j := by omega
    exact Std.le_refl _

end QuickSort

/-- A range inside the buffer is sorted without an access outside. -/
theorem quickSort_eq_ok {buffer : Buffer} {low high : Int} (hl : 0 ≤ low) (hh : high < buffer.size) :
    quickSort buffer low high = .ok (QuickSort.sortRange buffer.toVector low high hl hh).toArray := by
  unfold quickSort
  split
  · next hlt => rw [dif_pos ⟨by omega, hh⟩]
  · next hlt => rw [QuickSort.sortRange, dif_neg hlt]

end KernelAudit
