import KernelAudit.Kernel.Reference
import KernelAudit.Proofs.Kernel.Accesses
import KernelAudit.Proofs.Sorting.Order

/-! Which ranges quicksort sorts, and what becomes of a buffer. A range inside the buffer is sorted in
    place and nothing else is touched (`SortedRange`); any other range of two elements or more is refused
    with the index that lies outside, and the buffer is left as it was. Both are said of the function, of
    its run in memory, where every access is checked by itself, and of the kernel with its shorter bounds. -/

namespace KernelAudit

/-! ### Ranges of lists and buffers -/

/-- What two rearranged lists hold between the same parts is rearranged too. -/
theorem perm_extract_of_perm {α : Type} {xs ys : List α} {start stop : Nat} (h : start ≤ stop) (hperm : xs.Perm ys)
    (hbefore : xs.take start = ys.take start) (hbehind : xs.drop stop = ys.drop stop) :
    (xs.extract start stop).Perm (ys.extract start stop) := by
  have hsplit : ∀ zs : List α, zs = zs.take start ++ (zs.extract start stop ++ zs.drop stop) := fun zs => by
    have hrest : (zs.drop start).drop (stop - start) = zs.drop stop := by
      rw [List.drop_drop, Nat.add_sub_cancel' h]
    rw [List.extract_eq_take_drop, ← hrest, List.take_append_drop, List.take_append_drop]
  rw [hsplit xs, hsplit ys, hbefore, hbehind] at hperm
  exact (List.perm_append_right_iff _).mp ((List.perm_append_left_iff _).mp hperm)

/-- From one buffer to the other the elements from `low` to `high` have been put in nondecreasing order,
    and no other place has changed. -/
structure SortedRange (low high : Int) (before after : Buffer) : Prop where
  size : after.size = before.size
  arranges : Sorting.Arranges (before.extract low.toNat (high + 1).toNat) (after.extract low.toNat (high + 1).toNat)
  outside : ∀ k (hk : k < before.size) (hk' : k < after.size), (k < low ∨ high < k) → after[k] = before[k]

namespace QuickSort
variable {n : Nat} {low high : Int} {v w : Vector Int32 n}

theorem Rearranged.perm_extract (h : Rearranged low high v w) (hl : 0 ≤ low) (hle : low ≤ high) :
    (w.toArray.extract low.toNat (high + 1).toNat).toList.Perm
      (v.toArray.extract low.toNat (high + 1).toNat).toList := by
  have hplace : ∀ k (hw : k < w.toArray.toList.length) (hv : k < v.toArray.toList.length), (k < low ∨ high < k) →
      w.toArray.toList[k] = v.toArray.toList[k] := fun k _ hv hout =>
    h.getElem_outside (by simpa using hv) hout
  rw [Array.toList_extract, Array.toList_extract]
  refine perm_extract_of_perm (by omega) (Array.perm_iff_toList_perm.mp h.perm.toArray) ?_ ?_
  · refine List.ext_getElem (by simp) fun k hk hk' => ?_
    rw [List.getElem_take, List.getElem_take]
    rw [List.length_take] at hk
    exact hplace k _ _ (by omega)
  · refine List.ext_getElem (by simp) fun k hk hk' => ?_
    rw [List.getElem_drop, List.getElem_drop]
    exact hplace _ _ _ (by omega)

theorem SortedBetween.pairwise_extract (h : SortedBetween low high v) (hl : 0 ≤ low) :
    (v.toArray.extract low.toNat (high + 1).toNat).toList.Pairwise (· ≤ ·) := by
  rw [List.pairwise_iff_getElem]
  intro i j hi hj hij
  simp only [Array.length_toList, Array.size_extract, Vector.size_toArray] at hi hj
  simp only [Array.getElem_toList, Array.getElem_extract, Vector.getElem_toArray]
  exact h _ _ _ _ (by omega) (by omega) (by omega)

theorem sortedRange_sortRange (buffer : Buffer) (hl : 0 ≤ low) (hh : high < buffer.size) :
    SortedRange low high buffer (sortRange buffer.toVector low high hl hh).toArray := by
  have hrearranged := rearranged_sortRange buffer.toVector low high hl hh
  have hsorted := sortedBetween_sortRange buffer.toVector low high hl hh
  refine ⟨Vector.size_toArray _, ⟨SortedBetween.pairwise_extract hsorted hl, ?_⟩, fun k hk _ hout => ?_⟩
  · rcases Int.lt_or_le high low with hempty | hle
    · have hnone : ∀ b : Buffer, b.extract low.toNat (high + 1).toNat = #[] := fun b =>
        Array.extract_empty_of_stop_le_start (by omega)
      rw [hnone, hnone]
    · exact hrearranged.perm_extract hl hle
  · exact hrearranged.getElem_outside hk hout

end QuickSort

/-! ### Ranges that are refused -/

/-- A range of two elements or more that does not lie inside the buffer. -/
def Overruns (buffer : Buffer) (low high : Int) : Prop := low < high ∧ (low < 0 ∨ buffer.size ≤ high)

section
variable {buffer : Buffer} {low high : Int} {e : OutOfBounds}

theorem quickSort_eq_error_iff : quickSort buffer low high = .error e ↔
    low < high ∧ ((high < 0 ∨ buffer.size ≤ high) ∧ e = ⟨buffer.size, high⟩ ∨
      (0 ≤ high ∧ high < buffer.size) ∧ low < 0 ∧ e = ⟨buffer.size, low⟩) := by
  unfold quickSort
  split
  · next hlt =>
    split
    · next hh =>
      split
      · next hl => exact iff_of_false (by rintro ⟨⟩) fun h => by omega
      · next hl =>
        rw [Except.error.injEq]
        constructor
        · rintro rfl
          exact ⟨hlt, Or.inr ⟨hh, by omega, rfl⟩⟩
        · rintro ⟨-, ⟨hout, -⟩ | ⟨-, -, rfl⟩⟩
          · omega
          · rfl
    · next hh =>
      rw [Except.error.injEq]
      constructor
      · rintro rfl
        exact ⟨hlt, Or.inl ⟨by omega, rfl⟩⟩
      · rintro ⟨-, ⟨-, rfl⟩ | ⟨hin, -⟩⟩
        · rfl
        · exact absurd hin hh
  · next hge => exact iff_of_false (by rintro ⟨⟩) fun h => hge h.1

theorem exists_quickSort_eq_error_iff :
    (∃ e, quickSort buffer low high = .error e) ↔ Overruns buffer low high := by
  simp only [quickSort_eq_error_iff, Overruns]
  constructor
  · rintro ⟨e, hlt, ⟨hout, -⟩ | ⟨-, hneg, -⟩⟩
    · exact ⟨hlt, by omega⟩
    · exact ⟨hlt, Or.inl hneg⟩
  · rintro ⟨hlt, hout⟩
    by_cases hin : 0 ≤ high ∧ high < buffer.size
    · exact ⟨_, hlt, Or.inr ⟨hin, by omega, rfl⟩⟩
    · exact ⟨_, hlt, Or.inl ⟨by omega, rfl⟩⟩

theorem not_overruns_of_quickSort_eq_ok {sorted : Buffer} (h : quickSort buffer low high = .ok sorted) :
    ¬Overruns buffer low high := fun hout => by
  obtain ⟨e, he⟩ := exists_quickSort_eq_error_iff.mpr hout
  rw [h] at he
  cases he

end

/-! ### Refusals in memory -/

namespace QuickSort
variable {memory : Memory} {low high : Int64}

/-- A word that a signed index outside the buffer spells is outside it too. -/
theorem size_le_toNat {x : Int64} (hsize : memory.buffer.size < 2 ^ 63)
    (hout : x.toInt < 0 ∨ memory.buffer.size ≤ x.toInt) : memory.buffer.size ≤ x.toUInt64.toNat := by
  have hword := toNat_toUInt64 x
  have hmin := x.le_toInt
  have hmax := x.toInt_lt
  omega

theorem refusal_toUInt64 (x : Int64) : memory.refusal x.toUInt64 = ⟨memory.buffer.size, x.toInt⟩ := by
  rw [Memory.refusal, Int64.toInt64_toUInt64]

/-- An upper end outside the buffer is refused when the pivot is read; a lower end when the pivot is put
    in its place, as no index of the loop before that is below a word so large. -/
theorem run_partitionAt_outside (hsize : memory.buffer.size < 2 ^ 63) {e : OutOfBounds}
    (h : quickSort memory.buffer low.toInt high.toInt = .error e) :
    (partitionAt low.toUInt64 high.toUInt64).run.run memory = some (.error e, memory) := by
  obtain ⟨hlt, ⟨hout, rfl⟩ | ⟨hin, hneg, rfl⟩⟩ := quickSort_eq_error_iff.mp h
  · rw [← refusal_toUInt64]
    exact run_bind_error (run_read_outside (size_le_toNat hsize hout))
  · have hlow := size_le_toNat hsize (Or.inl hneg)
    have hhigh : high.toUInt64.toNat < memory.buffer.size := by
      have hword := toNat_toUInt64 high
      omega
    have hempty : ¬low.toUInt64 < high.toUInt64 := fun hlt' => by
      have := UInt64.lt_iff_toNat_lt.mp hlt'
      omega
    rw [partitionAt, run_bind_ok (run_read hhigh), gatherAt, dif_neg hempty, pure_bind, ← refusal_toUInt64]
    exact run_bind_error (run_exchange_outside hlow)

theorem run_sortAt_outside (depth : Nat) (hsize : memory.buffer.size < 2 ^ 63) {e : OutOfBounds}
    (h : quickSort memory.buffer low.toInt high.toInt = .error e) :
    (sortAt (depth + 1) low high).run.run memory = some (.error e, memory) := by
  rw [sortAt, if_pos (Int64.lt_iff_toInt_lt.mpr (quickSort_eq_error_iff.mp h).1)]
  exact run_bind_error (run_partitionAt_outside hsize h)

/-- Where nothing is refused, the run in memory ends and leaves what the function computes. -/
theorem leaves_of_quickSort_eq_ok {buffer sorted : Buffer} {depth : Nat} (hsize : buffer.size < 2 ^ 63)
    (hdepth : high.toInt - low.toInt ≤ depth)
    (h : quickSort buffer low.toInt high.toInt = .ok sorted) : Leaves (sortAt (depth + 1) low high) buffer () sorted := by
  by_cases hlt : low.toInt < high.toInt
  · have hin : 0 ≤ low.toInt ∧ high.toInt < buffer.size := by
      have hinside := not_overruns_of_quickSort_eq_ok h
      unfold Overruns at hinside
      omega
    rw [quickSort_eq_ok hin.1 hin.2] at h
    cases h
    exact leaves_sortAt buffer.toVector hsize _ _ hin.1 hin.2 low high rfl rfl depth hdepth
  · rw [quickSort, if_neg hlt] at h
    cases h
    rw [sortAt, if_neg (mt Int64.lt_iff_toInt_lt.mp hlt)]
    exact .of_pure _ _

end QuickSort

/-! ### The kernel -/

/-- What the built-in kernel does to a buffer. -/
theorem Reference.run_sort {m : Type → Type} [Monad m] [LawfulMonad m] (low high : Int32) (buffer : Buffer) :
    ((Reference.kernels.sort : SortKernel m).sort low high).run.run buffer =
      pure (match quickSort buffer low.toInt high.toInt with
        | .ok sorted => (.ok (), sorted)
        | .error e => (.error (.text e.message), buffer)) := by
  have hget : (get : Faulty (StateT Buffer m) Buffer) = ExceptT.lift get := rfl
  have hset : ∀ b : Buffer, (set b : Faulty (StateT Buffer m) PUnit) = ExceptT.lift (set b) := fun _ => rfl
  cases hsort : quickSort buffer low.toInt high.toInt with
  | ok sorted => simp [kernels, sort, hget, hset, hsort]
  | error e => simp [kernels, sort, hget, hsort]

/-! ### Sorting a range -/

/-- A range inside the buffer is sorted and no other place changes, whichever of its ends is the larger:
    the run in memory ends without an access outside, its calls nested no deeper than the range is long, and
    the kernel does the same with shorter bounds. -/
theorem quickSort_sorts_range {m : Type → Type} [Monad m] [LawfulMonad m] (buffer : Buffer) (low high : Int)
    (hl : 0 ≤ low) (hh : high < buffer.size) :
    ∃ sorted, quickSort buffer low high = .ok sorted ∧ SortedRange low high buffer sorted ∧
      (∀ (l h : Int64) (depth : Nat), l.toInt = low → h.toInt = high → high - low ≤ depth → buffer.size < 2 ^ 63 →
        QuickSort.Leaves (QuickSort.sortAt (depth + 1) l h) buffer () sorted) ∧
      ∀ l h : Int32, l.toInt = low → h.toInt = high →
        ((Reference.kernels.sort : SortKernel m).sort l h).run.run buffer = pure (.ok (), sorted) := by
  have hsort := quickSort_eq_ok hl hh
  refine ⟨_, hsort, QuickSort.sortedRange_sortRange buffer hl hh, fun l h depth hlow hhigh hdepth hsize => ?_,
    fun l h hlow hhigh => ?_⟩
  · exact QuickSort.leaves_of_quickSort_eq_ok hsize (by rwa [hlow, hhigh]) (by rw [hlow, hhigh, hsort])
  · rw [Reference.run_sort, hlow, hhigh, hsort]

/-- A range in the middle of a buffer whose elements repeat, and an empty range before the first one. -/
theorem quickSort_sorts_range_sample : ((0 : Int) ≤ 1 ∧ (4 : Int) < (#[5, 4, 4, -1, 2, 0] : Buffer).size) ∧
    (∃ sorted, SortedRange 1 4 #[5, 4, 4, -1, 2, 0] sorted ∧
      QuickSort.Leaves (QuickSort.sortAt 4 1 4) #[5, 4, 4, -1, 2, 0] () sorted ∧
      ((Reference.kernels.sort : SortKernel Id).sort 1 4).run.run #[5, 4, 4, -1, 2, 0] = pure (.ok (), sorted)) ∧
    ∃ sorted, quickSort #[5, 4, 4, -1, 2, 0] 0 (-1) = .ok sorted ∧ SortedRange 0 (-1) #[5, 4, 4, -1, 2, 0] sorted := by
  obtain ⟨middle, -, hsorted, hmemory, hkernel⟩ :=
    quickSort_sorts_range (m := Id) #[5, 4, 4, -1, 2, 0] 1 4 (by decide) (by decide)
  obtain ⟨empty, hempty, hkept, -⟩ := quickSort_sorts_range (m := Id) #[5, 4, 4, -1, 2, 0] 0 (-1) (by decide) (by decide)
  exact ⟨⟨by decide, by decide⟩, ⟨middle, hsorted, hmemory 1 4 3 rfl rfl (by decide) (by decide), hkernel 1 4 rfl rfl⟩,
    empty, hempty, hkept⟩

/-! ### Refusing a range -/

/-- Exactly the ranges that overrun the buffer are refused, each with the one of its ends that lies
    outside; in memory the refusal comes before any exchange, and the kernel faults with the buffer
    untouched. -/
theorem quickSort_refuses_overruns {m : Type → Type} [Monad m] [LawfulMonad m] (buffer : Buffer) :
    (∀ low high : Int, ((∃ e, quickSort buffer low high = .error e) ↔ Overruns buffer low high) ∧
      ∀ e, quickSort buffer low high = .error e →
        e.length = buffer.size ∧ (e.index = low ∨ e.index = high) ∧ (e.index < 0 ∨ buffer.size ≤ e.index)) ∧
    (∀ (l h : Int64) (depth : Nat), buffer.size ≤ depth → buffer.size < 2 ^ 63 → ∀ made, ∃ outcome memory,
      (QuickSort.sortAt (depth + 1) l h).run.run ⟨buffer, made⟩ = some (outcome, memory) ∧
      ((∃ e, outcome = .error e) ↔ Overruns buffer l.toInt h.toInt) ∧
      ∀ e, outcome = .error e → quickSort buffer l.toInt h.toInt = .error e ∧ memory = ⟨buffer, made⟩) ∧
    ∀ l h : Int32, ∃ outcome after,
      ((Reference.kernels.sort : SortKernel m).sort l h).run.run buffer = pure (outcome, after) ∧
      ((∃ fault, outcome = .error fault) ↔ Overruns buffer l.toInt h.toInt) ∧
      ∀ fault, outcome = .error fault →
        after = buffer ∧ ∃ e, quickSort buffer l.toInt h.toInt = .error e ∧ fault.text? = some e.message := by
  refine ⟨fun low high => ⟨exists_quickSort_eq_error_iff, fun e he => ?_⟩, fun l h depth hdepth hsize made => ?_,
    fun l h => ?_⟩
  · obtain ⟨-, ⟨hout, rfl⟩ | ⟨-, hneg, rfl⟩⟩ := quickSort_eq_error_iff.mp he
    · exact ⟨rfl, Or.inr rfl, hout⟩
    · exact ⟨rfl, Or.inl rfl, Or.inl hneg⟩
  · rw [← exists_quickSort_eq_error_iff]
    cases hsort : quickSort buffer l.toInt h.toInt with
    | error e =>
      refine ⟨.error e, ⟨buffer, made⟩, QuickSort.run_sortAt_outside depth hsize hsort, by simp, ?_⟩
      rintro _ ⟨⟩
      exact ⟨rfl, rfl⟩
    | ok sorted =>
      have hnested : h.toInt - l.toInt ≤ depth := by
        have hinside := not_overruns_of_quickSort_eq_ok hsort
        unfold Overruns at hinside
        omega
      obtain ⟨more, hrun⟩ := (QuickSort.leaves_of_quickSort_eq_ok hsize hnested hsort).run made
      exact ⟨.ok (), ⟨sorted, made ++ more⟩, hrun, by simp, nofun⟩
  · rw [← exists_quickSort_eq_error_iff, Reference.run_sort]
    cases hsort : quickSort buffer l.toInt h.toInt with
    | error e =>
      refine ⟨.error (.text e.message), buffer, rfl, by simp, ?_⟩
      rintro _ ⟨⟩
      exact ⟨rfl, e, rfl, rfl⟩
    | ok sorted => exact ⟨.ok (), sorted, rfl, by simp, nofun⟩

/-- A lower end below the buffer: the pivot is read, and the first exchange is refused. -/
theorem quickSort_refuses_overruns_sample : (#[3, 1] : Buffer).size < 2 ^ 63 ∧ ∃ e memory,
    (QuickSort.sortAt 3 (-1) 1).run.run ⟨#[3, 1], []⟩ = some (.error e, memory) ∧ memory = ⟨#[3, 1], []⟩ := by
  have hsize : (#[3, 1] : Buffer).size < 2 ^ 63 := by decide
  obtain ⟨-, hmemory, -⟩ := quickSort_refuses_overruns (m := Id) #[3, 1]
  obtain ⟨outcome, memory, hrun, hrefused, hkept⟩ := hmemory (-1) 1 2 (by decide) hsize []
  obtain ⟨e, rfl⟩ := hrefused.mpr (by decide : (-1 : Int) < 1 ∧ ((-1 : Int) < 0 ∨ ((2 : Nat) : Int) ≤ 1))
  exact ⟨hsize, e, memory, hrun, (hkept e rfl).2⟩

end KernelAudit
