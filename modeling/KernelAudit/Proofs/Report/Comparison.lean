import KernelAudit.Report.Comparison
import Mathlib.Data.List.Nodup

/-! What a comparison says about failures. The baseline speaks about an id through the last entry under
    it that was executed. A failure counts against a report if the baseline passed there or says
    nothing about it; one that follows a warning or a skip stands with the unchanged entries, so a clean
    comparison does not rule it out. -/

namespace KernelAudit

/-! ### What a baseline says about an id -/

/-- No entry under the id was executed. -/
def NeverExecuted (entries : List Entry) (id : String) : Prop := ∀ e ∈ entries, e.id = id → e.status? = none

/-- The last entry under the id that was executed has the given status. -/
def LastExecuted (entries : List Entry) (id : String) (s : Status) : Prop :=
  ∃ before e rest, entries = before ++ e :: rest ∧ e.id = id ∧ e.status? = some s ∧ NeverExecuted rest id

section
variable {entries : List Entry} {id : String} {s : Status}

theorem lastStatus_eq_none_iff : lastStatus entries id = none ↔ NeverExecuted entries id := by
  simp [lastStatus, NeverExecuted, List.findSome?_eq_none_iff]

theorem lastStatus_eq_some_iff : lastStatus entries id = some s ↔ LastExecuted entries id s := by
  rw [lastStatus, List.findSome?_eq_some_iff]
  constructor
  · rintro ⟨later, e, earlier, hrev, he, hlater⟩
    have hsplit : entries = earlier.reverse ++ e :: later.reverse := by
      simpa using congrArg List.reverse hrev
    obtain ⟨hid, hs⟩ : e.id = id ∧ e.status? = some s := by simpa using he
    exact ⟨earlier.reverse, e, later.reverse, hsplit, hid, hs, fun x hx hxid => by
      simpa [hxid] using hlater x (List.mem_reverse.mp hx)⟩
  · rintro ⟨before, e, rest, rfl, hid, hs, hrest⟩
    refine ⟨rest.reverse, e, before.reverse, by simp, by simp [hid, hs], fun x hx => ?_⟩
    simpa using hrest x (List.mem_reverse.mp hx)

/-- Where no id repeats, a report says about the id of an entry what the entry says. -/
theorem lastStatus_of_mem (hnodup : (entries.map Entry.id).Nodup) {e : Entry}
    (he : e ∈ entries) : lastStatus entries e.id = e.status? := by
  rcases hstatus : e.status? with _ | status
  · refine lastStatus_eq_none_iff.mpr fun other hother hid => ?_
    rw [List.inj_on_of_nodup_map hnodup hother he hid, hstatus]
  · obtain ⟨before, rest, rfl⟩ := List.append_of_mem he
    rw [List.map_append, List.map_cons, List.nodup_middle, List.nodup_cons] at hnodup
    refine lastStatus_eq_some_iff.mpr ⟨before, e, rest, rfl, rfl, hstatus, fun other hother hid => ?_⟩
    exact absurd (List.mem_append_right _ (List.mem_map.mpr ⟨other, hother, hid⟩)) hnodup.1

end

/-! ### Groups -/

theorem Change.of_eq_regression_iff {previous current : Option Status} :
    Change.of previous current = .regression ↔ previous = some .pass ∧ current = some .fail := by
  rcases previous with _ | _ | _ | _ | _ <;> rcases current with _ | _ | _ | _ | _ <;> decide

theorem Change.of_eq_newFailure_iff {previous current : Option Status} :
    Change.of previous current = .newFailure ↔ previous = none ∧ current = some .fail := by
  rcases previous with _ | _ | _ | _ | _ <;> rcases current with _ | _ | _ | _ | _ <;> decide

/-- Of the failures, those stay unchanged that follow anything but a pass. -/
theorem Change.of_fail_eq_unchanged {s : Status} (h : s ≠ .pass) :
    Change.of (some s) (some .fail) = .unchanged := by
  cases s with
  | pass => exact absurd rfl h
  | warn | fail | skip => rfl

namespace Comparison

section
variable {current baseline : Report} {id : String} {change : Change}

theorem mem_group_iff :
    id ∈ group current baseline change ↔
      ∃ e ∈ current.entries, e.id = id ∧ Change.of (lastStatus baseline.entries id) e.status? = change := by
  simp only [group, List.mem_map, List.mem_filter, decide_eq_true_eq]
  constructor
  · rintro ⟨e, ⟨he, hchange⟩, rfl⟩
    exact ⟨e, he, rfl, hchange⟩
  · rintro ⟨e, he, rfl, hchange⟩
    exact ⟨e, ⟨he, hchange⟩, rfl⟩

/-- Some entry under the id failed. -/
def Fails (current : Report) (id : String) : Prop := ∃ e ∈ current.entries, e.id = id ∧ e.status? = some .fail

/-- A group of failures is settled by what the baseline says about the id. -/
theorem mem_group_of_fail_iff {p : Option Status → Prop}
    (h : ∀ previous status, Change.of previous status = change ↔ p previous ∧ status = some .fail) :
    id ∈ group current baseline change ↔ p (lastStatus baseline.entries id) ∧ Fails current id := by
  rw [mem_group_iff]
  simp only [h, Fails]
  constructor
  · rintro ⟨e, he, hid, hprevious, hfail⟩
    exact ⟨hprevious, e, he, hid, hfail⟩
  · rintro ⟨hprevious, e, he, hid, hfail⟩
    exact ⟨e, he, hid, hprevious, hfail⟩

theorem mem_regressions_iff :
    id ∈ (ofReports current baseline).regressions ↔ LastExecuted baseline.entries id .pass ∧ Fails current id := by
  rw [← lastStatus_eq_some_iff]
  exact mem_group_of_fail_iff fun _ _ => Change.of_eq_regression_iff

theorem mem_newFailures_iff :
    id ∈ (ofReports current baseline).newFailures ↔ NeverExecuted baseline.entries id ∧ Fails current id := by
  rw [← lastStatus_eq_none_iff]
  exact mem_group_of_fail_iff fun _ _ => Change.of_eq_newFailure_iff

theorem isClean_iff :
    (ofReports current baseline).isClean = true ↔ ∀ id, Fails current id →
      ¬LastExecuted baseline.entries id .pass ∧ ¬NeverExecuted baseline.entries id := by
  rw [isClean, Bool.and_eq_true, List.isEmpty_iff, List.isEmpty_iff, List.eq_nil_iff_forall_not_mem,
    List.eq_nil_iff_forall_not_mem]
  simp only [mem_regressions_iff, mem_newFailures_iff, not_and']
  constructor
  · intro h id hfails
    exact ⟨h.2 id hfails, h.1 id hfails⟩
  · intro h
    exact ⟨fun id hfails => (h id hfails).2, fun id hfails => (h id hfails).1⟩

end

/-- A failure is a regression exactly if the baseline last passed under its id, and a new one exactly if
    nothing was executed there. Any other failure is listed as unchanged, and a comparison is clean
    exactly if there are only such failures: ones that follow a failure, a warning or a skip. -/
theorem failures_listed_by_last_status (current baseline : Report) :
    let c := ofReports current baseline
    (∀ e ∈ current.entries, e.status? = some .fail →
      (e.id ∈ c.regressions ↔ LastExecuted baseline.entries e.id .pass) ∧
      (e.id ∈ c.newFailures ↔ NeverExecuted baseline.entries e.id) ∧
      ∀ s ≠ .pass, LastExecuted baseline.entries e.id s → e.id ∈ c.unchanged) ∧
    (c.isClean = true ↔ ∀ e ∈ current.entries, e.status? = some .fail →
      ∃ s ≠ .pass, LastExecuted baseline.entries e.id s) := by
  intro c
  have hfails : ∀ e ∈ current.entries, e.status? = some .fail → Fails current e.id :=
    fun e he hfail => ⟨e, he, rfl, hfail⟩
  refine ⟨fun e he hfail => ⟨?_, ?_, fun s hs hlast => ?_⟩, ?_⟩
  · exact mem_regressions_iff.trans (and_iff_left (hfails e he hfail))
  · exact mem_newFailures_iff.trans (and_iff_left (hfails e he hfail))
  · refine mem_group_iff.mpr ⟨e, he, rfl, ?_⟩
    rw [lastStatus_eq_some_iff.mpr hlast, hfail]
    exact Change.of_fail_eq_unchanged hs
  · rw [isClean_iff]
    constructor
    · intro h e he hfail
      obtain ⟨hpass, hnever⟩ := h e.id (hfails e he hfail)
      rcases hlast : lastStatus baseline.entries e.id with _ | s
      · exact absurd (lastStatus_eq_none_iff.mp hlast) hnever
      · refine ⟨s, ?_, lastStatus_eq_some_iff.mp hlast⟩
        rintro rfl
        exact hpass (lastStatus_eq_some_iff.mp hlast)
    · rintro h id ⟨e, he, rfl, hfail⟩
      obtain ⟨s, hs, hlast⟩ := h e he hfail
      rw [← lastStatus_eq_some_iff, ← lastStatus_eq_none_iff, lastStatus_eq_some_iff.mpr hlast]
      exact ⟨fun heq => hs (Option.some.inj heq), nofun⟩

/-- A report with a single entry. -/
def single (id : String) (result : Option CheckResult) : Report :=
  ⟨0, "h", "reference", [⟨id, "check", .sort, "", result⟩], 3⟩

/-- A failure after a pass is a regression, so the comparison is not clean. -/
theorem failures_listed_sample :
    let current := single "A" (some (.fail "out of order" "" 1))
    let baseline := single "A" (some (.pass "sorted" 1))
    "A" ∈ (ofReports current baseline).regressions ∧ (ofReports current baseline).isClean ≠ true := by
  intro current baseline
  obtain ⟨hlisted, hclean⟩ := failures_listed_by_last_status current baseline
  have hlast : LastExecuted baseline.entries "A" .pass := lastStatus_eq_some_iff.mp rfl
  obtain ⟨hregression, -⟩ := hlisted _ List.mem_cons_self rfl
  refine ⟨hregression.mpr hlast, fun h => ?_⟩
  obtain ⟨s, hs, hother⟩ := hclean.mp h _ List.mem_cons_self rfl
  exact hs (Option.some.inj ((lastStatus_eq_some_iff.mpr hother).symm.trans (lastStatus_eq_some_iff.mpr hlast)))

/-- A failure where the baseline had a warning is not listed as one, and the comparison is clean. -/
theorem not_failure_listed_after_warning :
    let current := single "A" (some (.fail "out of order" "" 1))
    let baseline := single "A" (some (.warn "slow" "" 1))
    Fails current "A" ∧ LastExecuted baseline.entries "A" .warn ∧
      ¬("A" ∈ (ofReports current baseline).regressions ∨ "A" ∈ (ofReports current baseline).newFailures) ∧
      (ofReports current baseline).isClean = true := by
  intro current baseline
  exact ⟨⟨_, List.mem_cons_self, rfl, rfl⟩, lastStatus_eq_some_iff.mp rfl, by decide, by decide⟩

end Comparison

end KernelAudit
