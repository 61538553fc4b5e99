import KernelAudit.Proofs.Kernel.Ranges

/-! What one split of a range does. The last element of the range comes to stand between those that are at most
    as large and those that are larger, by exchanges inside the range only. Said of the function and of its run
    in memory, where an index is a word and an access outside the buffer would end the run. -/

namespace KernelAudit.QuickSort

/-- From one buffer to the other the range from `low` to `high` has been split around what was its last element,
    which stands at `p` now, and no other place has changed. -/
structure SplitRange (low high p : Nat) (before after : Buffer) : Prop where
  size : after.size = before.size
  inside : low ≤ p ∧ p ≤ high
  pivot : ∀ (hp : p < after.size) (hh : high < before.size), after[p] = before[high]
  front : ∀ k (hk : k < after.size) (hp : p < after.size), low ≤ k → k < p → after[k] ≤ after[p]
  back : ∀ k (hk : k < after.size) (hp : p < after.size), p < k → k ≤ high → after[p] < after[k]
  perm : (after.extract low (high + 1)).toList.Perm (before.extract low (high + 1)).toList
  outside : ∀ k (hk : k < before.size) (hk' : k < after.size), (k < low ∨ high < k) → after[k] = before[k]

theorem Partitioned.splitRange {n low high p : Nat} {v w : Vector Int32 n} (h : Partitioned low high p v w)
    (hp : low ≤ p ∧ p ≤ high) (hh : high < n) : SplitRange low high p v.toArray w.toArray := by
  have hpn : p < n := by omega
  have hperm := h.rearranged.perm_extract (by omega) (by omega)
  rw [Int.toNat_natCast, Int.toNat_natCast_add_one] at hperm
  refine ⟨by simp, hp, fun _ _ => h.pivot hpn hh, fun k hk _ hkl hkp => ?_, fun k hk _ hpk hkh => ?_, hperm,
    fun k hk _ hout => ?_⟩
  · exact h.before k (by simpa using hk) hpn hkl hkp
  · exact h.behind k (by simpa using hk) hpn hpk hkh
  · exact h.rearranged.getElem_outside (by simpa using hk) (by omega)

/-- Every range inside a buffer is split around its last element, equal elements and exchanges of a slot with
    itself included, and the run in memory ends without an access outside. -/
theorem partition_splits_range (buffer : Buffer) (low high : Nat) (hl : low ≤ high) (hh : high < buffer.size) :
    ∃ p w, partition buffer.toVector low high hl hh = (p, w) ∧ SplitRange low high p.val buffer w.toArray ∧
      ∀ l h : UInt64, l.toNat = low → h.toNat = high →
        ∃ place : UInt64, place.toNat = p.val ∧ Leaves (partitionAt l h) buffer place w.toArray := by
  have hsplit := partitioned_partition buffer.toVector low high hl hh
  have hrun := leaves_partitionAt buffer.toVector low high hl hh
  generalize partition buffer.toVector low high hl hh = r at hsplit hrun ⊢
  obtain ⟨p, w⟩ := r
  refine ⟨p, w, rfl, hsplit.splitRange p.property hh, fun l h hlow hhigh => ?_⟩
  obtain rfl : l = .ofNat low := by rw [← hlow, UInt64.ofNat_toNat]
  obtain rfl : h = .ofNat high := by rw [← hhigh, UInt64.ofNat_toNat]
  have hword : high < UInt64.size := by
    rw [← hhigh]
    exact UInt64.toNat_lt _
  have hplace : p.val < UInt64.size := Nat.lt_of_le_of_lt p.property.2 hword
  exact ⟨.ofNat p.val, UInt64.toNat_ofNat_of_lt' hplace, hrun hword⟩

/-- Elements equal to the pivot on both sides of a larger one; the first exchange is of a slot with itself. -/
theorem partition_splits_range_sample : ((1 : Nat) ≤ 5 ∧ 5 < (#[7, 2, 9, 2, 4, 2, 0] : Buffer).size) ∧
    ∃ (p : Nat) (after : Buffer) (place : UInt64), SplitRange 1 5 p #[7, 2, 9, 2, 4, 2, 0] after ∧
      place.toNat = p ∧ Leaves (partitionAt 1 5) #[7, 2, 9, 2, 4, 2, 0] place after := by
  have hl : (1 : Nat) ≤ 5 := by decide
  have hh : 5 < (#[7, 2, 9, 2, 4, 2, 0] : Buffer).size := by decide
  obtain ⟨p, w, -, hsplit, hrun⟩ := partition_splits_range #[7, 2, 9, 2, 4, 2, 0] 1 5 hl hh
  obtain ⟨place, hplace, hleaves⟩ := hrun 1 5 rfl rfl
  exact ⟨⟨hl, hh⟩, p.val, w.toArray, place, hsplit, hplace, hleaves⟩

end KernelAudit.QuickSort
