import KernelAudit.Proofs.Check.Executed
import KernelAudit.Proofs.Check.Summary

/-! Runs that end at the first failure, beside runs that go on. Where the checks always end alike, both
    runs give the same entries for as long as they last, whether a failure is returned, comes from a fault
    or from an overrun; so the shorter report holds the longer one up to its first failure. That failure
    decides about the exit code of either. -/

namespace KernelAudit

/-- `short` is `full` up to its first failure, that one included; without a failure it is all of `full`. -/
def UpToFirstFailure (short full : List Entry) : Prop :=
  (short = full ∧ ∀ e ∈ full, e.status? ≠ some .fail) ∨
    ∃ before e rest, full = before ++ e :: rest ∧ short = before ++ [e] ∧ e.status? = some .fail ∧
      ∀ x ∈ before, x.status? ≠ some .fail

namespace UpToFirstFailure
variable {short full : List Entry} {e : Entry}

theorem stop (h : e.status? = some .fail) (rest : List Entry) : UpToFirstFailure [e] (e :: rest) :=
  Or.inr ⟨[], e, rest, rfl, rfl, h, fun _ hx => nomatch hx⟩

theorem go (h : e.status? ≠ some .fail) (hrest : UpToFirstFailure short full) :
    UpToFirstFailure (e :: short) (e :: full) := by
  rcases hrest with ⟨rfl, hnone⟩ | ⟨before, last, rest, rfl, rfl, hlast, hbefore⟩
  · exact Or.inl ⟨rfl, List.forall_mem_cons.mpr ⟨h, hnone⟩⟩
  · exact Or.inr ⟨e :: before, last, rest, rfl, rfl, hlast, List.forall_mem_cons.mpr ⟨h, hbefore⟩⟩

theorem length_failures_le_one (h : UpToFirstFailure short full) :
    (short.filter (·.status? = some .fail)).length ≤ 1 := by
  rcases h with ⟨rfl, hnone⟩ | ⟨before, last, rest, -, rfl, -, hbefore⟩
  · rw [List.filter_eq_nil_iff.mpr fun e he => by simpa using hnone e he]
    exact Nat.zero_le 1
  · rw [List.filter_append, List.filter_eq_nil_iff.mpr fun e he => by simpa using hbefore e he, List.nil_append]
    exact List.length_filter_le _ [last]

theorem exitCode_eq (h : UpToFirstFailure short full) :
    (Summary.ofEntries short).exitCode = (Summary.ofEntries full).exitCode := by
  rcases h with ⟨rfl, -⟩ | ⟨before, last, rest, rfl, rfl, hlast, -⟩
  · rfl
  · have hcounted : last.counted = .fail := Entry.counted_of_status? hlast
    rw [Summary.exitCode_ofEntries_eq_one_iff.mpr ⟨last, by simp, hcounted⟩,
      Summary.exitCode_ofEntries_eq_one_iff.mpr ⟨last, by simp, hcounted⟩]

end UpToFirstFailure

namespace Check

/-- Wherever it begins, the check ends in the same way after the same time. -/
def Fixed {σ : Type} (check : Check (StateM σ)) : Prop := ∃ execution, ∀ s, (check.execute.run s).1 = execution

section
variable {σ : Type} {settings : RunSettings}

theorem Fixed.entryAt_eq {check : Check (StateM σ)} (h : check.Fixed) {settings' : RunSettings}
    (htimeout : settings'.timeoutMs = settings.timeoutMs) (s s' : σ) :
    entryAt settings' check s' = entryAt settings check s := by
  obtain ⟨execution, hexecution⟩ := h
  rw [entryAt, entryAt, hexecution, hexecution, htimeout]

theorem upToFirstFailure_runAll {planned : List (Check (StateM σ))} (h : ∀ check ∈ planned, check.Fixed) (s s' : σ) :
    UpToFirstFailure ((runAll { settings with failFast := true } planned).run s).1
      ((runAll { settings with failFast := false } planned).run s').1 := by
  induction planned generalizing s s' with
  | nil => exact Or.inl ⟨rfl, fun _ he => nomatch he⟩
  | cons check rest ih =>
    obtain ⟨hcheck, hrest⟩ := List.forall_mem_cons.mp h
    -- The check ends alike in both runs, so they part only if it fails.
    rw [run_runAll_cons, run_runAll_cons, hcheck.entryAt_eq rfl s s', Bool.true_and, Bool.false_and,
      if_neg Bool.false_ne_true]
    split
    · next hfail => exact .stop (of_decide_eq_true hfail) _
    · next hgoes => exact .go (fun hfail => hgoes (decide_eq_true hfail)) (ih hrest _ _)

end

/-- If all checks always end alike, a run that ends at the first failure reports what a run that goes on
    reports up to its first failure, so at most one failure, and both have the same exit code. -/
theorem fail_fast_keeps_exit_code {σ : Type} (host : Host (StateM σ)) (settings : RunSettings)
    (checks : List (Check (StateM σ))) (selection : Selection) (hfixed : ∀ check ∈ checks, check.Fixed) (s s' : σ) :
    let fast := reportOf host { settings with failFast := true } checks selection s
    let full := reportOf host { settings with failFast := false } checks selection s'
    UpToFirstFailure fast.entries full.entries ∧ fast.failures.length ≤ 1 ∧
      fast.summary.exitCode = full.summary.exitCode := by
  intro fast full
  have hplanned : ∀ check ∈ plan checks (selection.ids checks), check.Fixed := by
    intro check hcheck
    obtain ⟨id, -, hfind⟩ := List.mem_filterMap.mp hcheck
    exact hfixed check (List.mem_of_find?_eq_some hfind)
  have hentries : UpToFirstFailure fast.entries full.entries :=
    upToFirstFailure_runAll hplanned (host.clock.run s).2 (host.clock.run s').2
  exact ⟨hentries, hentries.length_failures_le_one, hentries.exitCode_eq⟩

/-- A pass, a fault of a check that the pass waits for, an overrun and a warning. -/
def sampleEndings : List (Check (StateM Unit)) :=
  [⟨"A", "first", .sort, "", ["B"], pure ⟨.ok (.pass "" 0), 0⟩⟩,
   ⟨"B", "second", .sort, "", [], pure ⟨.error (some "crashed"), 0⟩⟩,
   ⟨"C", "third", .sort, "", [], pure ⟨.ok (.pass "" 0), 11⟩⟩,
   ⟨"D", "fourth", .sort, "", [], pure ⟨.ok (.warn "" "" 0), 0⟩⟩]

theorem fixed_sampleEndings : ∀ check ∈ sampleEndings, check.Fixed := by
  simp only [sampleEndings, List.forall_mem_cons]
  exact ⟨⟨_, fun _ => rfl⟩, ⟨_, fun _ => rfl⟩, ⟨_, fun _ => rfl⟩, ⟨_, fun _ => rfl⟩, fun _ h => nomatch h⟩

/-- The run that ends at the fault has the exit code of the run with the overrun and the warning. -/
theorem fail_fast_keeps_exit_code_sample :
    (∀ check ∈ sampleEndings, check.Fixed) ∧
      (reportOf Host.idle ⟨true, 10, ""⟩ sampleEndings (.only ["D", "A", "B", "C"]) ()).summary.exitCode =
        (reportOf Host.idle ⟨false, 10, ""⟩ sampleEndings (.only ["D", "A", "B", "C"]) ()).summary.exitCode := by
  obtain ⟨-, -, hexit⟩ := fail_fast_keeps_exit_code Host.idle ⟨false, 10, ""⟩ sampleEndings
    (.only ["D", "A", "B", "C"]) fixed_sampleEndings () ()
  exact ⟨fixed_sampleEndings, hexit⟩

end Check

end KernelAudit
