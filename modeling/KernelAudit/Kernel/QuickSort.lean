import KernelAudit.Kernel.Basic

/-! Quicksort on an inclusive range of a buffer, with the last element of the range as pivot. Inside
    the buffer every access is in bounds by construction; a range that leaves the buffer is refused
    before any element has moved, and the refusal names the index that was out of bounds. -/

namespace KernelAudit.QuickSort

variable {n : Nat}

/-- Moves what is at most `pivot` among the indices from `j` up to `high` to the front, starting at
    `store`, and gives the index after the last one moved. -/
def gather (v : Vector Int32 n) (pivot : Int32) (store j high : Nat)
    (hs : store ≤ j) (hj : j ≤ high) (hh : high < n) :
    { p : Nat // store ≤ p ∧ p ≤ high } × Vector Int32 n :=
  if h : j < high then
    if v[j] ≤ pivot then
      let (⟨p, hp⟩, w) := gather (v.swap store j) pivot (store + 1) (j + 1) high (by omega) h hh
      (⟨p, by omega⟩, w)
    else gather v pivot store (j + 1) high (by omega) h hh
  else (⟨store, by omega⟩, v)
termination_by high - j

/-- Splits the range `low..high` around its last element and gives the index where that one ends. -/
def partition (v : Vector Int32 n) (low high : Nat) (hl : low ≤ high) (hh : high < n) :
    { p : Nat // low ≤ p ∧ p ≤ high } × Vector Int32 n :=
  let (p, w) := gather v v[high] low low high (Nat.le_refl _) hl hh
  (p, w.swap p.val high (by omega) hh)

/-- Sorts the range `low..high`; a range of fewer than two elements stays as it is. -/
def sortRange (v : Vector Int32 n) (low high : Int) (hl : 0 ≤ low) (hh : high < n) :
    Vector Int32 n :=
  if h : low < high then
    let (p, w) := partition v low.toNat high.toNat (by omega) (by omega)
    let w := sortRange w low (p.val - 1) hl (by omega)
    sortRange w (p.val + 1) high (by omega) hh
  else v
termination_by (high - low).toNat
decreasing_by all_goals omega

end QuickSort

/-- An access outside a buffer of `length` elements. -/
structure OutOfBounds where
  length : Nat
  index : Int
  deriving DecidableEq, Repr

/-- Indices are written as words of sixty-four bits, so a negative one appears as a large number. -/
def OutOfBounds.message (e : OutOfBounds) : String :=
  s!"index out of bounds: the len is {e.length} but the index is {(e.index % 2 ^ 64).toNat}"

/-- Sorts `buffer[low..=high]`. A range with `low < high` has to lie inside the buffer; its upper end
    is looked at first. -/
def quickSort (buffer : Buffer) (low high : Int) : Except OutOfBounds Buffer :=
  if low < high then
    if hh : 0 ≤ high ∧ high < buffer.size then
      if hl : 0 ≤ low then
        .ok (QuickSort.sortRange buffer.toVector low high hl (by simpa using hh.2)).toArray
      else .error ⟨buffer.size, low⟩
    else .error ⟨buffer.size, high⟩
  else .ok buffer

end KernelAudit
