import KernelAudit.Proofs.Check.Summary
import KernelAudit.Proofs.Report.Partition
import Mathlib.Algebra.BigOperators.Group.List.Basic

/-! What is asked of a report that grew by one entry at a time. The counters of its summary, its lists of
    failures and warnings and its exit code come from separate passes over the entries, and they agree.
    Summaries add up, so that of a report is the sum of those of its categories. -/

namespace KernelAudit

attribute [ext] Summary

namespace Summary

/-! ### Sums of summaries -/

instance : Zero Summary := ⟨empty⟩

/-- Summaries are added counter by counter. -/
instance : Add Summary where
  add s t :=
    ⟨s.passed + t.passed, s.warned + t.warned, s.failed + t.failed, s.skipped + t.skipped, s.total + t.total,
      s.totalDurationMs + t.totalDurationMs⟩

instance : AddCommMonoid Summary where
  add_assoc _ _ _ := Summary.ext (Nat.add_assoc ..) (Nat.add_assoc ..) (Nat.add_assoc ..) (Nat.add_assoc ..)
    (Nat.add_assoc ..) (Nat.add_assoc ..)
  zero_add _ := Summary.ext (Nat.zero_add _) (Nat.zero_add _) (Nat.zero_add _) (Nat.zero_add _) (Nat.zero_add _)
    (Nat.zero_add _)
  add_zero _ := rfl
  add_comm _ _ := Summary.ext (Nat.add_comm ..) (Nat.add_comm ..) (Nat.add_comm ..) (Nat.add_comm ..)
    (Nat.add_comm ..) (Nat.add_comm ..)
  nsmul := nsmulRec

/-- To count an entry is to add the summary of that entry alone. -/
theorem add_eq (s : Summary) (e : Entry) : s.add e = s + ofEntries [e] := by
  have hsingle : ofEntries [e] = empty.add e := rfl
  rw [hsingle]
  unfold add
  rcases e.status? with _ | (_ | _ | _ | _)
  all_goals exact Summary.ext rfl rfl rfl rfl rfl (congrArg (s.totalDurationMs + ·) (Nat.zero_add _).symm)

theorem foldl_add (entries : List Entry) (s : Summary) : entries.foldl add s = s + ofEntries entries := by
  induction entries generalizing s with
  | nil => exact (add_zero s).symm
  | cons e rest ih =>
    have hfirst : ofEntries (e :: rest) = ofEntries [e] + ofEntries rest := ih _
    rw [List.foldl_cons, ih, add_eq, hfirst, add_assoc]

theorem ofEntries_append (l l' : List Entry) : ofEntries (l ++ l') = ofEntries l + ofEntries l' := by
  rw [ofEntries, List.foldl_append, foldl_add]
  rfl

theorem ofEntries_perm {l l' : List Entry} (h : l.Perm l') : ofEntries l = ofEntries l' := by
  have hcons : ∀ e l, ofEntries (e :: l) = ofEntries [e] + ofEntries l := fun e l => ofEntries_append [e] l
  induction h with
  | nil => rfl
  | cons e _ ih => rw [hcons, ih, ← hcons]
  | swap e e' l => rw [hcons e' (e :: l), hcons e l, hcons e (e' :: l), hcons e' l, add_left_comm]
  | trans _ _ ih ih' => exact ih.trans ih'

theorem ofEntries_flatMap {κ : Type} (keys : List κ) (part : κ → List Entry) :
    ofEntries (keys.flatMap part) = (keys.map fun k => ofEntries (part k)).sum := by
  induction keys with
  | nil => rfl
  | cons k keys ih => rw [List.flatMap_cons, ofEntries_append, ih, List.map_cons, List.sum_cons]

/-! ### Counters -/

/-- Whatever was counted was counted under one way. -/
def Balanced (s : Summary) : Prop := s.passed + s.warned + s.failed + s.skipped = s.total

theorem Balanced.add {s : Summary} (h : s.Balanced) (e : Entry) : (s.add e).Balanced := by
  unfold Balanced Summary.add at *
  rcases e.status? with _ | (_ | _ | _ | _) <;> dsimp only <;> omega

theorem balanced_ofEntries (entries : List Entry) : (ofEntries entries).Balanced := by
  have hfold : ∀ s : Summary, s.Balanced → (entries.foldl Summary.add s).Balanced := by
    induction entries with
    | nil => exact fun _ h => h
    | cons e rest ih => exact fun s h => ih (s.add e) (h.add e)
  exact hfold empty rfl

end Summary

namespace Report
variable (r : Report)

theorem entries_foldl_add (added : List Entry) : (added.foldl add r).entries = r.entries ++ added := by
  induction added generalizing r with
  | nil => exact (List.append_nil _).symm
  | cons e rest ih => rw [List.foldl_cons, ih, add, List.append_assoc, List.singleton_append]

theorem length_withStatus {way : Status} (h : way ≠ .skip) : (r.withStatus way).length = r.summary.count way := by
  rw [withStatus, summary, Summary.count_ofEntries_of_ne_skip h, List.countP_eq_length_filter]

theorem hasFailures_iff : r.hasFailures ↔ r.failures ≠ [] := by
  rw [hasFailures, List.any_eq_true, failures, withStatus, ne_eq, List.filter_eq_nil_iff, not_forall]
  simp only [Classical.not_imp, not_not]

theorem summary_eq_sum : r.summary = (Category.all.map fun c => Summary.ofEntries (r.inCategory c)).sum := by
  rw [summary, ← Summary.ofEntries_perm r.perm_inCategory, Summary.ofEntries_flatMap]

end Report

/-- After any entries were added to a report, its summary counts each entry that is in it under one of the four
    ways; failures and warnings are as many as it counts, the exit code follows from whether there are any, and
    the summary is the sum of those of the categories, into which the entries fall apart. -/
theorem Report.totals_agree (start : Report) (added : List Entry) :
    let r := added.foldl Report.add start
    r.entries = start.entries ++ added ∧
    r.summary.passed + r.summary.warned + r.summary.failed + r.summary.skipped = r.summary.total ∧
    r.summary.total = start.entries.length + added.length ∧
    r.summary.failed = r.failures.length ∧ r.summary.warned = r.warnings.length ∧
    (r.hasFailures ↔ r.summary.exitCode = 1) ∧
    (r.summary.exitCode = 2 ↔ r.warnings ≠ [] ∧ r.failures = []) ∧
    r.summary = (Category.all.map fun c => Summary.ofEntries (r.inCategory c)).sum ∧
    (Category.all.flatMap r.inCategory).Perm r.entries := by
  intro r
  have hentries : r.entries = start.entries ++ added := start.entries_foldl_add added
  have hfailed : r.failures.length = r.summary.failed := r.length_withStatus nofun
  have hwarned : r.warnings.length = r.summary.warned := r.length_withStatus nofun
  refine ⟨hentries, Summary.balanced_ofEntries _, ?_, hfailed.symm, hwarned.symm, ?_, ?_, r.summary_eq_sum,
    r.perm_inCategory⟩
  · rw [Report.summary, Summary.total_ofEntries, hentries, List.length_append]
  · rw [r.hasFailures_iff, Summary.exitCode_eq_one_iff, ← List.length_pos_iff, hfailed]
    rfl
  · rw [Summary.exitCode_eq_two_iff, ← List.length_pos_iff, ← List.length_eq_zero_iff, hwarned, hfailed]
    rfl

end KernelAudit
