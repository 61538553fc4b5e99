import KernelAudit.Proofs.Check.Executed
import KernelAudit.Proofs.Program.Saving
import KernelAudit.Proofs.Report.Comparison

/-! A run that is compared with its own report, saved and loaded again. A run reports on no id twice, so
    what a baseline last says about the id of an entry is what that entry says, and no status is a change
    from itself. A report that names an id twice need not be unchanged from itself: the first of the two
    entries is compared with the second. -/

namespace KernelAudit

/-! ### Reports compared with themselves -/

theorem Change.of_self (status : Option Status) : Change.of status status = .unchanged := by
  rcases status with _ | _ | _ | _ | _ <;> rfl

namespace Comparison

/-- The comparison in which all of the given ids are unchanged. -/
def allUnchanged (ids : List String) : Comparison where
  newFailures := []
  newWarnings := []
  resolved := []
  regressions := []
  unchanged := ids

theorem group_self {r : Report} (hnodup : (r.entries.map Entry.id).Nodup) (change : Change) :
    group r r change = if change = .unchanged then r.entries.map Entry.id else [] := by
  have hchange : ∀ e ∈ r.entries, Change.of (lastStatus r.entries e.id) e.status? = .unchanged := by
    intro e he
    rw [lastStatus_of_mem hnodup he, Change.of_self]
  rw [group]
  split
  · next heq => rw [heq, List.filter_eq_self.mpr fun e he => decide_eq_true (hchange e he)]
  · next hne =>
    have hnone : ∀ e ∈ r.entries, ¬decide (Change.of (lastStatus r.entries e.id) e.status? = change) = true := by
      intro e he
      rw [hchange e he, decide_eq_true_eq]
      exact fun heq => hne heq.symm
    rw [List.filter_eq_nil_iff.mpr hnone, List.map_nil]

theorem ofReports_self {r : Report} (hnodup : (r.entries.map Entry.id).Nodup) :
    ofReports r r = allUnchanged (r.entries.map Entry.id) := by
  simp only [ofReports, group_self hnodup, reduceCtorEq, if_false, if_true, allUnchanged]

end Comparison

/-! ### Reports of runs -/

namespace Check

section
variable {σ : Type} (host : Host (StateM σ)) (settings : RunSettings) (checks : List (Check (StateM σ)))
  (selection : Selection) (s : σ)

open World in
/-- The report of any run that could be saved is loaded if and only if its path leads to a file, and what is
    loaded is the report: compared with it, the report has all its ids unchanged, in order, and is clean. -/
theorem own_baseline_unchanged {w w' : World} {path : Text.Raw}
    (hsave : (system.saveBaseline (reportOf host settings checks selection s) path).run w = (.ok (), w')) :
    let report := reportOf host settings checks selection s
    ((∃ loaded, (system.loadBaseline path).run w' = (.ok loaded, w')) ↔ w'.leadsToFile path = true) ∧
      ∀ loaded, (system.loadBaseline path).run w' = (.ok loaded, w') →
        loaded = report ∧
        Comparison.ofReports report loaded = Comparison.allUnchanged (report.entries.map Entry.id) ∧
        (Comparison.ofReports report loaded).isClean = true := by
  intro report
  have hload : w'.leadsToFile path = true → (system.loadBaseline path).run w' = (.ok report, w') :=
    load_saved hsave
  refine ⟨⟨fun ⟨_, hloaded⟩ => leadsToFile_of_loadBaseline hloaded, fun h => ⟨report, hload h⟩⟩, fun loaded hloaded => ?_⟩
  have hsame : (Except.ok loaded, w') = (Except.ok report, w') :=
    hloaded.symm.trans (hload (leadsToFile_of_loadBaseline hloaded))
  obtain rfl : loaded = report := Except.ok.inj (Prod.mk.inj hsame).1
  rw [Comparison.ofReports_self (nodup_reportOf host settings checks selection s)]
  exact ⟨rfl, rfl, rfl⟩

end

open World in
/-- A run over a cycle, with a failure in it, saved under a new name. -/
theorem own_baseline_unchanged_sample :
    let report := reportOf Host.idle ⟨false, 10, ""⟩ sampleChecks (.only ["A", "unknown", "C", "B", "A"]) ()
    let saved := (system.saveBaseline report (.ofString "b")).run withNull
    saved.1 = .ok () ∧ saved.2.leadsToFile (.ofString "b") = true ∧
      ∃ loaded, (system.loadBaseline (.ofString "b")).run saved.2 = (.ok loaded, saved.2) ∧
        Comparison.ofReports report loaded = Comparison.allUnchanged (report.entries.map Entry.id) := by
  intro report saved
  have hsaved : saved.1 = .ok () := eq_ok_of_isOk (by decide +kernel)
  have hfile : saved.2.leadsToFile (.ofString "b") = true := by decide +kernel
  obtain ⟨hloads, hcompare⟩ := own_baseline_unchanged Host.idle ⟨false, 10, ""⟩ sampleChecks
    (.only ["A", "unknown", "C", "B", "A"]) () (Prod.ext hsaved rfl)
  obtain ⟨loaded, hload⟩ := hloads.mpr hfile
  exact ⟨hsaved, hfile, loaded, hload, (hcompare loaded hload).2.1⟩

end Check

end KernelAudit
