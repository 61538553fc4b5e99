import KernelAudit.Proofs.Kernel.QuickSort

/-! Quicksort in memory. Bounds are signed words, indices unsigned ones, and every access is checked when
    it is made, by the index that the words have come to by then; nothing is known beforehand about where
    the bounds lie. Calls take up place on a stack, and nothing is known beforehand about how deep they nest
    either. A run inside the buffer does what `quickSort` says, with calls no deeper than the range is long. -/

namespace KernelAudit
namespace QuickSort

/-- A buffer in memory, and the exchanges of slots that were made in it. -/
structure Memory where
  buffer : Buffer
  exchanges : List (UInt64 × UInt64)

/-- A computation on a buffer in memory that ends when an access is refused. It does not end at all where the
    stack has no place for a call. -/
abbrev Access := ExceptT OutOfBounds (StateT Memory Option)

/-- What is said of an index that is refused. -/
def Memory.refusal (memory : Memory) (index : UInt64) : OutOfBounds :=
  ⟨memory.buffer.size, index.toInt64.toInt⟩

def read (index : UInt64) : Access Int32 := do
  let memory ← get
  if h : index.toNat < memory.buffer.size then pure memory.buffer[index.toNat]
  else throw (memory.refusal index)

/-- Exchanges two slots; the first index is checked first. -/
def exchange (i j : UInt64) : Access Unit := do
  let memory ← get
  if hi : i.toNat < memory.buffer.size then
    if hj : j.toNat < memory.buffer.size then
      set (⟨memory.buffer.swap i.toNat j.toNat, memory.exchanges ++ [(i, j)]⟩ : Memory)
    else throw (memory.refusal j)
  else throw (memory.refusal i)

/-- Below another word the next one does not wrap. -/
theorem sub_toNat_add_one_lt {j high : UInt64} (h : j < high) : high.toNat - (j + 1).toNat < high.toNat - j.toNat := by
  have hlt := UInt64.lt_iff_toNat_lt.mp h
  have hnext : (j + 1).toNat = j.toNat + 1 := by
    rw [UInt64.toNat_add]
    exact Nat.mod_eq_of_lt (Nat.lt_of_le_of_lt hlt high.toNat_lt)
  omega

/-- Moves what is at most the pivot among the slots from `j` up to `high` to the front. -/
def gatherAt (pivot : Int32) (store j high : UInt64) : Access UInt64 := do
  if h : j < high then
    if (← read j) ≤ pivot then
      exchange store j
      gatherAt pivot (store + 1) (j + 1) high
    else gatherAt pivot store (j + 1) high
  else pure store
termination_by high.toNat - j.toNat
decreasing_by all_goals exact sub_toNat_add_one_lt h

def partitionAt (low high : UInt64) : Access UInt64 := do
  let pivot ← read high
  let store ← gatherAt pivot low low high
  exchange store high
  pure store

/-- Sorts the slots from `low` to `high` on a stack that has place for `depth` calls. -/
def sortAt : (depth : Nat) → (low high : Int64) → Access Unit
  | 0, _, _ => ExceptT.lift (StateT.lift none)
  | depth + 1, low, high => do
    if low < high then
      let split ← partitionAt low.toUInt64 high.toUInt64
      sortAt depth low (split.toInt64 - 1)
      sortAt depth (split.toInt64 + 1) high

/-! ### Words -/

/-- A negative index is a large word. -/
theorem toNat_toUInt64 (x : Int64) : (x.toUInt64.toNat : Int) = x.toInt % 2 ^ 64 := by
  have hcond := BitVec.toInt_eq_toNat_cond x.toBitVec
  have hlt := x.toBitVec.isLt
  have hnat : x.toUInt64.toNat = x.toBitVec.toNat := rfl
  have hint : x.toInt = x.toBitVec.toInt := rfl
  rw [hnat, hint, hcond]
  split <;> omega

theorem toUInt64_eq_ofNat {x : Int64} {k : Nat} (h : x.toInt = k) : x.toUInt64 = .ofNat k := by
  rw [← Int64.ofInt_toInt x, h, Int64.ofInt_eq_ofNat]
  exact Int64.toUInt64_ofNat'

/-- The places beside a slot are signed words, also where the one before it is -1. -/
theorem toInt_beside {k : Nat} (h : k + 1 < 2 ^ 63) : ((UInt64.ofNat k).toInt64 - 1).toInt = (k : Int) - 1 ∧
    ((UInt64.ofNat k).toInt64 + 1).toInt = (k : Int) + 1 := by
  have hslot : (UInt64.ofNat k).toInt64 = Int64.ofInt k := by
    rw [UInt64.toInt64_ofNat', Int64.ofInt_eq_ofNat]
  have hone : (1 : Int64) = Int64.ofInt 1 := rfl
  rw [hslot, hone, ← Int64.ofInt_sub, ← Int64.ofInt_add]
  exact ⟨Int64.toInt_ofInt_of_le (by omega) (by omega), Int64.toInt_ofInt_of_le (by omega) (by omega)⟩

/-! ### Single accesses -/

section
variable {α β : Type} {memory memory' : Memory}

theorem run_bind_ok {x : Access α} {f : α → Access β} {a : α} (h : x.run.run memory = some (.ok a, memory')) :
    (x >>= f).run.run memory = (f a).run.run memory' := by
  rw [ExceptT.run_bind, StateT.run_bind, h]
  rfl

theorem run_bind_error {x : Access α} {f : α → Access β} {e : OutOfBounds}
    (h : x.run.run memory = some (.error e, memory')) :
    (x >>= f).run.run memory = some (.error e, memory') := by
  rw [ExceptT.run_bind, StateT.run_bind, h]
  rfl

theorem run_get_bind (f : Memory → Access β) : (get >>= f).run.run memory = (f memory).run.run memory := rfl

theorem run_read {i : UInt64} (h : i.toNat < memory.buffer.size) :
    (read i).run.run memory = some (.ok memory.buffer[i.toNat], memory) := by
  rw [read, run_get_bind, dif_pos h]
  rfl

theorem run_read_outside {i : UInt64} (h : memory.buffer.size ≤ i.toNat) :
    (read i).run.run memory = some (.error (memory.refusal i), memory) := by
  rw [read, run_get_bind, dif_neg (Nat.not_lt.mpr h)]
  rfl

theorem run_exchange {i j : UInt64} (hi : i.toNat < memory.buffer.size) (hj : j.toNat < memory.buffer.size) :
    (exchange i j).run.run memory =
      some (.ok (), ⟨memory.buffer.swap i.toNat j.toNat, memory.exchanges ++ [(i, j)]⟩) := by
  rw [exchange, run_get_bind, dif_pos hi, dif_pos hj]
  rfl

theorem run_exchange_outside {i j : UInt64} (h : memory.buffer.size ≤ i.toNat) :
    (exchange i j).run.run memory = some (.error (memory.refusal i), memory) := by
  rw [exchange, run_get_bind, dif_neg (Nat.not_lt.mpr h)]
  rfl

end

/-! ### Runs inside the buffer -/

section
variable {α β : Type}

/-- Begun with the one buffer in memory, `x` ends with the value and leaves the other buffer. -/
structure Leaves (x : Access α) (before : Buffer) (a : α) (after : Buffer) : Prop where
  run : ∀ made, ∃ more, x.run.run ⟨before, made⟩ = some (.ok a, ⟨after, made ++ more⟩)

namespace Leaves
variable {x : Access α} {f : α → Access β} {a : α} {b : β} {before between after : Buffer}

theorem of_pure (a : α) (buffer : Buffer) : Leaves (pure a) buffer a buffer := by
  refine ⟨fun made => ⟨[], ?_⟩⟩
  rw [List.append_nil]
  rfl

theorem bind (h : Leaves x before a between) (hnext : Leaves (f a) between b after) :
    Leaves (x >>= f) before b after := by
  refine ⟨fun made => ?_⟩
  obtain ⟨more, hrun⟩ := h.run made
  obtain ⟨later, hrun'⟩ := hnext.run (made ++ more)
  refine ⟨more ++ later, ?_⟩
  rw [run_bind_ok hrun, hrun', List.append_assoc]

end Leaves

end

section
variable {n : Nat} (v : Vector Int32 n)

theorem toNat_lt_size {k : Nat} (hk : k < n) (hword : k < UInt64.size) : (UInt64.ofNat k).toNat < v.toArray.size := by
  rwa [UInt64.toNat_ofNat_of_lt' hword, Vector.size_toArray]

theorem leaves_read {k : Nat} (hk : k < n) (hword : k < UInt64.size) :
    Leaves (read (.ofNat k)) v.toArray v[k] v.toArray := by
  refine ⟨fun made => ⟨[], ?_⟩⟩
  rw [run_read (toNat_lt_size v hk hword), List.append_nil]
  simp only [UInt64.toNat_ofNat_of_lt' hword, Vector.getElem_toArray]

theorem leaves_exchange {i j : Nat} (hi : i < n) (hj : j < n) (hiword : i < UInt64.size) (hjword : j < UInt64.size) :
    Leaves (exchange (.ofNat i) (.ofNat j)) v.toArray () (v.swap i j).toArray := by
  refine ⟨fun made => ⟨[(.ofNat i, .ofNat j)], ?_⟩⟩
  rw [run_exchange (toNat_lt_size v hi hiword) (toNat_lt_size v hj hjword)]
  simp only [UInt64.toNat_ofNat_of_lt' hiword, UInt64.toNat_ofNat_of_lt' hjword, Vector.toArray_swap]

theorem leaves_gatherAt (pivot : Int32) (store j high : Nat) (hs : store ≤ j) (hj : j ≤ high) (hh : high < n)
    (hword : high < UInt64.size) :
    Leaves (gatherAt pivot (.ofNat store) (.ofNat j) (.ofNat high)) v.toArray
      (.ofNat (gather v pivot store j high hs hj hh).1.val) (gather v pivot store j high hs hj hh).2.toArray := by
  have hlt : ∀ k, k ≤ high → (UInt64.ofNat k < UInt64.ofNat high ↔ k < high) := fun k hk =>
    UInt64.ofNat_lt_iff_lt (Nat.lt_of_le_of_lt hk hword) hword
  fun_induction gather v pivot store j high hs hj hh with
  | case1 v store j hs hj hjh hle p hp w heq ih =>
    rw [heq, UInt64.ofNat_add, UInt64.ofNat_add] at ih
    rw [gatherAt, dif_pos ((hlt j hj).mpr hjh)]
    refine (leaves_read v (by omega) (by omega)).bind ?_
    rw [if_pos hle]
    exact (leaves_exchange v (by omega) (by omega) (by omega) (by omega)).bind ih
  | case2 v store j hs hj hjh hgt ih =>
    rw [UInt64.ofNat_add] at ih
    rw [gatherAt, dif_pos ((hlt j hj).mpr hjh)]
    refine (leaves_read v (by omega) (by omega)).bind ?_
    rw [if_neg hgt]
    exact ih
  | case3 v store j hs hj hge =>
    rw [gatherAt, dif_neg (mt (hlt j hj).mp hge)]
    exact .of_pure _ _

theorem leaves_partitionAt (low high : Nat) (hl : low ≤ high) (hh : high < n) (hword : high < UInt64.size) :
    Leaves (partitionAt (.ofNat low) (.ofNat high)) v.toArray (.ofNat (partition v low high hl hh).1.val)
      (partition v low high hl hh).2.toArray := by
  have hgather := leaves_gatherAt v v[high] low low high (Nat.le_refl _) hl hh hword
  unfold partition
  generalize gather v v[high] low low high (Nat.le_refl _) hl hh = r at hgather ⊢
  obtain ⟨⟨p, hp⟩, w⟩ := r
  have hpn : p < n := by omega
  have hpword : p < UInt64.size := by omega
  exact (leaves_read v hh hword).bind (hgather.bind ((leaves_exchange w hpn hh hpword hword).bind (.of_pure _ _)))

theorem leaves_sortAt (hn : n < 2 ^ 63) (low high : Int) (hl : 0 ≤ low) (hh : high < n) (l h : Int64)
    (hlow : l.toInt = low) (hhigh : h.toInt = high) (depth : Nat) (hdepth : high - low ≤ depth) :
    Leaves (sortAt (depth + 1) l h) v.toArray () (sortRange v low high hl hh).toArray := by
  revert l h depth
  fun_induction sortRange v low high hl hh with
  | case1 v low high hl hh hlt p u hsplit left ihLeft ihRight =>
    intro l h hlow hhigh depth hdepth
    obtain ⟨depth, rfl⟩ := Nat.exists_eq_add_one_of_ne_zero (show depth ≠ 0 by omega)
    have hword : high.toNat < UInt64.size := Nat.lt_trans (by omega : high.toNat < 2 ^ 63) (by decide)
    have hpart := leaves_partitionAt v low.toNat high.toNat (by omega) (by omega) hword
    rw [hsplit] at hpart
    obtain ⟨hminus, hplus⟩ := toInt_beside (k := p.val) (by omega)
    have hleft := ihLeft l _ hlow hminus depth (by omega)
    have hright := ihRight _ h hplus hhigh depth (by omega)
    rw [sortAt, if_pos (Int64.lt_iff_toInt_lt.mpr (by omega)), toUInt64_eq_ofNat (k := low.toNat) (by omega),
      toUInt64_eq_ofNat (k := high.toNat) (by omega)]
    exact hpart.bind (hleft.bind hright)
  | case2 v low high hl hh hge =>
    intro l h hlow hhigh depth hdepth
    rw [sortAt, if_neg (mt Int64.lt_iff_toInt_lt.mp (by omega))]
    exact .of_pure _ _

end

end QuickSort
end KernelAudit
