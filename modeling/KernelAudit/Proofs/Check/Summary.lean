import KernelAudit.Check.Summary
import Mathlib.Algebra.GroupWithZero.Nat

/-! What the counters of a summary count. Every entry falls under one of the four ways a check can go,
    the skipped ones taking in those that were never executed, and each counter is the number of entries
    that fall under its way. Words of a fixed width count the same while the numbers fit into them. -/

namespace KernelAudit

/-- The way under which an entry is counted. -/
def Entry.counted (e : Entry) : Status := e.status?.getD .skip

theorem Entry.counted_of_status? {e : Entry} {way : Status} (h : e.status? = some way) : e.counted = way := by
  rw [counted, h, Option.getD_some]

theorem Entry.counted_eq_iff {e : Entry} {way : Status} (h : way ≠ .skip) : e.counted = way ↔ e.status? = some way := by
  rw [counted]
  rcases e.status? with _ | other
  · exact iff_of_false h.symm nofun
  · rw [Option.getD_some, Option.some_inj]

namespace Summary

/-- The counter for a way. -/
def count (s : Summary) : Status → Nat
  | .pass => s.passed
  | .warn => s.warned
  | .fail => s.failed
  | .skip => s.skipped

theorem count_add (s : Summary) (e : Entry) (way : Status) :
    (s.add e).count way = s.count way + if e.counted = way then 1 else 0 := by
  unfold add Entry.counted
  rcases e.status? with _ | (_ | _ | _ | _) <;> cases way <;> rfl

theorem count_foldl (entries : List Entry) (s : Summary) (way : Status) :
    (entries.foldl add s).count way = s.count way + entries.countP (·.counted = way) := by
  induction entries generalizing s with
  | nil => rfl
  | cons e rest ih =>
    rw [List.foldl_cons, ih, count_add, List.countP_cons, Nat.add_assoc]
    simp only [decide_eq_true_eq, Nat.add_comm]

theorem count_ofEntries (entries : List Entry) (way : Status) :
    (ofEntries entries).count way = entries.countP (·.counted = way) := by
  have hempty : empty.count way = 0 := by cases way <;> rfl
  rw [ofEntries, count_foldl, hempty, Nat.zero_add]

theorem total_add (s : Summary) (e : Entry) : (s.add e).total = s.total + 1 := by
  unfold add
  rcases e.status? with _ | (_ | _ | _ | _) <;> rfl

theorem total_foldl (entries : List Entry) (s : Summary) : (entries.foldl add s).total = s.total + entries.length := by
  induction entries generalizing s with
  | nil => rfl
  | cons e rest ih => rw [List.foldl_cons, ih, total_add, List.length_cons, Nat.add_assoc, Nat.add_comm 1]

theorem total_ofEntries (entries : List Entry) : (ofEntries entries).total = entries.length :=
  (total_foldl entries empty).trans (Nat.zero_add _)

theorem count_ofEntries_of_ne_skip {way : Status} (h : way ≠ .skip) (entries : List Entry) :
    (ofEntries entries).count way = entries.countP (·.status? = some way) := by
  rw [count_ofEntries]
  refine List.countP_congr fun e _ => ?_
  rw [decide_eq_true_eq, decide_eq_true_eq, Entry.counted_eq_iff h]

theorem failed_ofEntries (entries : List Entry) :
    (ofEntries entries).failed = entries.countP (·.status? = some .fail) := by
  have hfail : Status.fail ≠ .skip := nofun
  exact count_ofEntries_of_ne_skip hfail entries

/-- Entries without a result are counted with those that were skipped. -/
theorem skipped_ofEntries (entries : List Entry) :
    (ofEntries entries).skipped = entries.countP (·.status? = some .skip) + entries.countP (·.result.isNone) := by
  refine (count_ofEntries entries .skip).trans ?_
  induction entries with
  | nil => rfl
  | cons e rest ih =>
    rw [List.countP_cons, List.countP_cons, List.countP_cons, ih, Entry.counted, Entry.status?]
    rcases e.result with _ | (_ | _ | _ | _) <;> simp [CheckResult.status] <;> omega

theorem exitCode_cases (s : Summary) :
    (0 < s.count .fail ∧ s.exitCode = 1) ∨ (s.count .fail = 0 ∧ 0 < s.count .warn ∧ s.exitCode = 2) ∨
      (s.count .fail = 0 ∧ s.count .warn = 0 ∧ s.exitCode = 0) := by
  simp only [count]
  unfold exitCode
  split
  · omega
  · split
    · omega
    · omega

theorem exitCode_eq_zero_iff {s : Summary} : s.exitCode = 0 ↔ s.count .fail = 0 ∧ s.count .warn = 0 := by
  have hcases := s.exitCode_cases
  omega

theorem exitCode_eq_one_iff {s : Summary} : s.exitCode = 1 ↔ 0 < s.count .fail := by
  have hcases := s.exitCode_cases
  omega

theorem exitCode_eq_two_iff {s : Summary} : s.exitCode = 2 ↔ 0 < s.count .warn ∧ s.count .fail = 0 := by
  have hcases := s.exitCode_cases
  omega

theorem exitCode_ofEntries_eq_zero_iff {entries : List Entry} :
    (ofEntries entries).exitCode = 0 ↔ ∀ e ∈ entries, e.counted ≠ .fail ∧ e.counted ≠ .warn := by
  simp only [exitCode_eq_zero_iff, count_ofEntries, List.countP_eq_zero, decide_eq_true_eq, ne_eq, forall₂_and]

theorem exitCode_ofEntries_eq_one_iff {entries : List Entry} :
    (ofEntries entries).exitCode = 1 ↔ ∃ e ∈ entries, e.counted = .fail := by
  simp only [exitCode_eq_one_iff, count_ofEntries, List.countP_pos_iff, decide_eq_true_eq]

/-! ### Machine words -/

theorem totalDurationMs_foldl (entries : List Entry) (s : Summary) :
    (entries.foldl add s).totalDurationMs = s.totalDurationMs + (entries.map Entry.durationMs).sum := by
  induction entries generalizing s with
  | nil => rfl
  | cons e rest ih =>
    have hstep : (s.add e).totalDurationMs = s.totalDurationMs + e.durationMs := by
      unfold add
      rcases e.status? with _ | (_ | _ | _ | _) <;> rfl
    rw [List.foldl_cons, ih, hstep, List.map_cons, List.sum_cons, Nat.add_assoc]

theorem totalDurationMs_ofEntries (entries : List Entry) :
    (ofEntries entries).totalDurationMs = (entries.map Entry.durationMs).sum :=
  (totalDurationMs_foldl entries empty).trans (Nat.zero_add _)

/-- The sum over a suite of entries is that of their summary. -/
theorem foldl_durationMs (entries : List Entry) :
    (entries.map Entry.durationMs).foldl (· + ·) 0 = (ofEntries entries).totalDurationMs := by
  rw [totalDurationMs_ofEntries, List.sum_eq_foldl]

/-- The counters fit into words of thirty-two bits, and the sum of the times into one of sixty-four. -/
def Fits (s : Summary) : Prop := s.total < UInt32.size ∧ s.totalDurationMs < UInt64.size

/-- A summary that is kept in words, which start anew when they are full. -/
structure Words where
  passed : UInt32
  warned : UInt32
  failed : UInt32
  skipped : UInt32
  total : UInt32
  totalDurationMs : UInt64

def toWords (s : Summary) : Words :=
  ⟨.ofNat s.passed, .ofNat s.warned, .ofNat s.failed, .ofNat s.skipped, .ofNat s.total, .ofNat s.totalDurationMs⟩

namespace Words

def add (w : Words) (e : Entry) : Words :=
  let w := { w with total := w.total + 1, totalDurationMs := w.totalDurationMs + UInt64.ofNat e.durationMs }
  match e.status? with
  | some .pass => { w with passed := w.passed + 1 }
  | some .warn => { w with warned := w.warned + 1 }
  | some .fail => { w with failed := w.failed + 1 }
  | some .skip | none => { w with skipped := w.skipped + 1 }

def ofEntries (entries : List Entry) : Words := entries.foldl add empty.toWords

def toSummary (w : Words) : Summary :=
  ⟨w.passed.toNat, w.warned.toNat, w.failed.toNat, w.skipped.toNat, w.total.toNat, w.totalDurationMs.toNat⟩

theorem toWords_add (s : Summary) (e : Entry) : (s.add e).toWords = s.toWords.add e := by
  have hone : ∀ n : Nat, UInt32.ofNat (n + 1) = .ofNat n + 1 := fun n => UInt32.ofNat_add n 1
  unfold Summary.add add toWords
  rcases e.status? with _ | (_ | _ | _ | _) <;> simp only [hone, UInt64.ofNat_add]

theorem ofEntries_eq_toWords (entries : List Entry) : ofEntries entries = (Summary.ofEntries entries).toWords := by
  have hfold : ∀ s : Summary, entries.foldl add s.toWords = (entries.foldl Summary.add s).toWords := by
    induction entries with
    | nil => exact fun _ => rfl
    | cons e rest ih =>
      intro s
      rw [List.foldl_cons, List.foldl_cons, ← toWords_add, ih]
  exact hfold empty

end Words

theorem count_le_total (entries : List Entry) (way : Status) : (ofEntries entries).count way ≤ (ofEntries entries).total := by
  rw [count_ofEntries, total_ofEntries]
  exact List.countP_le_length

theorem Fits.sublist {entries part : List Entry} (h : (ofEntries entries).Fits) (hpart : part.Sublist entries) :
    (ofEntries part).Fits := by
  have hsum : (part.map Entry.durationMs).sum ≤ (entries.map Entry.durationMs).sum := by
    clear h
    induction hpart with
    | slnil => exact Nat.le_refl _
    | cons e _ ih => exact Nat.le_trans ih (Nat.le_add_left _ _)
    | cons_cons e _ ih => exact Nat.add_le_add_left ih _
  rw [Fits, total_ofEntries, totalDurationMs_ofEntries] at h ⊢
  exact ⟨Nat.lt_of_le_of_lt hpart.length_le h.1, Nat.lt_of_le_of_lt hsum h.2⟩

/-- While the numbers of a report fit into words, the words hold the numbers, for the report and for any part of it:
    no word has started anew on the way. -/
theorem toSummary_words {entries part : List Entry} (h : (ofEntries entries).Fits) (hpart : part.Sublist entries) :
    (Words.ofEntries part).toSummary = ofEntries part := by
  have h := h.sublist hpart
  have hword : ∀ way, (UInt32.ofNat ((ofEntries part).count way)).toNat = (ofEntries part).count way :=
    fun way => UInt32.toNat_ofNat_of_lt' (Nat.lt_of_le_of_lt (count_le_total part way) h.1)
  rw [Words.ofEntries_eq_toWords]
  calc (ofEntries part).toWords.toSummary
      = ⟨(UInt32.ofNat ((ofEntries part).count .pass)).toNat, (UInt32.ofNat ((ofEntries part).count .warn)).toNat,
          (UInt32.ofNat ((ofEntries part).count .fail)).toNat, (UInt32.ofNat ((ofEntries part).count .skip)).toNat,
          (UInt32.ofNat (ofEntries part).total).toNat, (UInt64.ofNat (ofEntries part).totalDurationMs).toNat⟩ := rfl
    _ = ofEntries part := by
      rw [hword, hword, hword, hword, UInt32.toNat_ofNat_of_lt' h.1, UInt64.toNat_ofNat_of_lt' h.2]
      rfl

end Summary

end KernelAudit
