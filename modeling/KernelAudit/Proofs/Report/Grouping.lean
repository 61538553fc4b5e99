import KernelAudit.Proofs.Report.Comparison
import KernelAudit.Proofs.Report.Partition

/-! How a comparison sorts the entries of a report. Each entry goes into one group, in which the entries keep
    their order; which group it is follows from the status of the entry and from the status that the baseline
    executed last under its id, and from nothing else in the baseline. Compared the other way round, what was
    resolved is what got worse. -/

namespace KernelAudit

/-! ### What a baseline says last -/

section
variable {before after entries : List Entry} {x : Entry} {id : String}

theorem lastStatus_append (l l' : List Entry) (id : String) :
    lastStatus (l ++ l') id = (lastStatus l' id).or (lastStatus l id) := by
  rw [lastStatus, List.reverse_append, List.findSome?_append]
  rfl

theorem lastStatus_cons (x : Entry) (l : List Entry) (id : String) :
    lastStatus (x :: l) id = (lastStatus l id).or (if x.id = id then x.status? else none) := by
  rw [← List.singleton_append, lastStatus_append, lastStatus, lastStatus, List.reverse_singleton, List.findSome?_singleton]

/-- The entry has no say about the id: it is about another one, it was not executed, or a later one was. -/
def Silent (x : Entry) (later : List Entry) (id : String) : Prop :=
  x.id ≠ id ∨ x.status? = none ∨ ¬NeverExecuted later id

theorem lastStatus_of_silent (h : Silent x after id) :
    lastStatus (before ++ x :: after) id = lastStatus (before ++ after) id := by
  have hcons : lastStatus (x :: after) id = lastStatus after id := by
    rw [lastStatus_cons]
    rcases h with hid | hnone | hlater
    · rw [if_neg hid, Option.or_none]
    · rw [hnone, ite_self, Option.or_none]
    · -- What stands behind the entry says something, and that counts.
      obtain ⟨s, hs⟩ := Option.ne_none_iff_exists'.mp (mt lastStatus_eq_none_iff.mp hlater)
      rw [hs, Option.some_or]
  rw [lastStatus_append, lastStatus_append, hcons]

end

/-! ### Groups -/

def Change.all : List Change := [.newFailure, .newWarning, .resolved, .regression, .unchanged]

theorem Change.mem_all (change : Change) : change ∈ all := by cases change <;> decide

namespace Comparison

def listed (c : Comparison) : Change → List String
  | .regression => c.regressions
  | .newFailure => c.newFailures
  | .newWarning => c.newWarnings
  | .resolved => c.resolved
  | .unchanged => c.unchanged

/-- The group that an entry goes into, beside the entries of a baseline. -/
def place (baseline : List Entry) (e : Entry) : Change := Change.of (lastStatus baseline e.id) e.status?

section
variable {current baseline : Report}

theorem listed_ofReports (change : Change) :
    (ofReports current baseline).listed change =
      (current.entries.filter (place baseline.entries · = change)).map Entry.id := by
  cases change <;> rfl

theorem listed_sublist (change : Change) :
    ((ofReports current baseline).listed change).Sublist (current.entries.map Entry.id) := by
  rw [listed_ofReports]
  exact List.filter_sublist.map Entry.id

theorem perm_listed :
    (Change.all.flatMap (ofReports current baseline).listed).Perm (current.entries.map Entry.id) := by
  have hperm := (perm_flatMap_filter (place baseline.entries) current.entries Change.all (by decide)).map Entry.id
  rw [List.map_flatMap, List.filter_eq_self.mpr fun e _ => decide_eq_true (Change.mem_all _)] at hperm
  rwa [funext listed_ofReports]

end

/-- Every entry of a report is listed once, in one of the five groups, and each group keeps the order of the
    report. Which group it is follows from the status of the entry and the status that was executed last under
    its id in the baseline, if any was. An entry of the baseline that has another id, was not executed or was
    overridden by a later one makes no difference. -/
theorem entries_listed_by_last_status (current baseline : Report) :
    let c := ofReports current baseline
    (c.newFailures ++ c.newWarnings ++ c.resolved ++ c.regressions ++ c.unchanged).Perm (current.entries.map Entry.id) ∧
    (∀ change, (c.listed change).Sublist (current.entries.map Entry.id) ∧
      c.listed change = (current.entries.filter (place baseline.entries · = change)).map Entry.id) ∧
    (∀ e, (NeverExecuted baseline.entries e.id → place baseline.entries e = Change.of none e.status?) ∧
      ∀ s, LastExecuted baseline.entries e.id s → place baseline.entries e = Change.of (some s) e.status?) ∧
    ∀ before x after, baseline.entries = before ++ x :: after → ∀ e, Silent x after e.id →
      place baseline.entries e = place (before ++ after) e := by
  intro c
  refine ⟨?_, fun change => ⟨listed_sublist change, listed_ofReports change⟩, fun e => ⟨fun hnever => ?_, fun s hs => ?_⟩,
    fun before x after hbaseline e hsilent => ?_⟩
  · have hall : Change.all.flatMap c.listed =
        c.newFailures ++ c.newWarnings ++ c.resolved ++ c.regressions ++ c.unchanged := by
      simp [Change.all, listed]
    exact hall ▸ perm_listed
  · rw [place, lastStatus_eq_none_iff.mpr hnever]
  · rw [place, lastStatus_eq_some_iff.mpr hs]
  · rw [place, place, hbaseline, lastStatus_of_silent hsilent]

/-- A check that is reported twice, and another one without a result. -/
def sampleRepeated : Report :=
  ⟨0, "h", "reference", [⟨"A", "first", .sort, "", some (.fail "out of order" "" 1)⟩,
    ⟨"B", "second", .sort, "", none⟩, ⟨"A", "first again", .sort, "", some (.pass "sorted" 1)⟩], 3⟩

/-- Its baseline, in which a failure overrides a pass and is followed by an entry that was not executed. -/
def sampleOverridden : Report :=
  ⟨0, "h", "reference", [⟨"A", "first", .sort, "", some (.pass "sorted" 1)⟩,
    ⟨"A", "first", .sort, "", some (.fail "out of order" "" 1)⟩, ⟨"A", "first", .sort, "", none⟩], 3⟩

/-- The two occurrences of one id go into different groups, both compared with the failure. -/
theorem entries_listed_sample :
    let c := ofReports sampleRepeated sampleOverridden
    c.resolved = ["A"] ∧ c.unchanged = ["A", "B"] ∧
      (c.newFailures ++ c.newWarnings ++ c.resolved ++ c.regressions ++ c.unchanged).Perm ["A", "B", "A"] ∧
      ∀ e, place sampleOverridden.entries e = place (sampleOverridden.entries.take 2) e := by
  intro c
  obtain ⟨hperm, hlisted, -, hsilent⟩ := entries_listed_by_last_status sampleRepeated sampleOverridden
  have htake : ∀ e : Entry, Silent ⟨"A", "first", .sort, "", none⟩ [] e.id := fun e => Or.inr (Or.inl rfl)
  exact ⟨(hlisted .resolved).2, (hlisted .unchanged).2, hperm, fun e =>
    hsilent (sampleOverridden.entries.take 2) _ [] rfl e (htake e)⟩

end Comparison

/-! ### Both directions -/

theorem Change.of_eq_resolved_iff {previous current : Option Status} :
    Change.of previous current = .resolved ↔ current = some .pass ∧ (previous = some .fail ∨ previous = some .warn) := by
  rcases previous with _ | _ | _ | _ | _ <;> rcases current with _ | _ | _ | _ | _ <;> decide

theorem Change.of_reverse (s t : Status) :
    (Change.of (some s) (some t) = .resolved ↔
      Change.of (some t) (some s) = .regression ∨ Change.of (some t) (some s) = .newWarning) ∧
    (Change.of (some s) (some t) = .resolved → Change.of (some t) (some s) ≠ .unchanged) := by
  cases s <;> cases t <;> decide

namespace Comparison

/-- Where no id repeats, the entry that was executed under an id decides where the id is listed. -/
theorem mem_group_iff_of_executed {current baseline : Report} (hnodup : (current.entries.map Entry.id).Nodup)
    {id : String} {s : Status} (hs : LastExecuted current.entries id s) (change : Change) :
    id ∈ group current baseline change ↔ Change.of (lastStatus baseline.entries id) (some s) = change := by
  obtain ⟨before, e, rest, hentries, rfl, hstatus, -⟩ := hs
  have he : e ∈ current.entries := hentries ▸ List.mem_append_right _ List.mem_cons_self
  rw [mem_group_iff]
  constructor
  · rintro ⟨other, hother, hid, hchange⟩
    rwa [List.inj_on_of_nodup_map hnodup hother he hid, hstatus] at hchange
  · exact fun hchange => ⟨e, he, rfl, hstatus ▸ hchange⟩

theorem exists_lastExecuted {entries : List Entry} {id : String} (h : ¬NeverExecuted entries id) :
    ∃ s, LastExecuted entries id s := by
  obtain ⟨s, hs⟩ := Option.ne_none_iff_exists'.mp (mt lastStatus_eq_none_iff.mp h)
  exact ⟨s, lastStatus_eq_some_iff.mp hs⟩

/-- Of two reports without repeated ids, compare each with the other. An id that was executed in both is
    resolved one way exactly if it is a regression or a new warning the other way, that is if it passes here and
    fails or warns there; so it is not unchanged the other way. -/
theorem resolved_iff_worse_in_reverse {c b : Report} (hc : (c.entries.map Entry.id).Nodup)
    (hb : (b.entries.map Entry.id).Nodup) {id : String} (hexecuted : ¬NeverExecuted c.entries id)
    (hexecuted' : ¬NeverExecuted b.entries id) :
    (id ∈ (ofReports c b).resolved ↔ id ∈ (ofReports b c).regressions ∨ id ∈ (ofReports b c).newWarnings) ∧
    (id ∈ (ofReports c b).resolved ↔
      LastExecuted c.entries id .pass ∧ (LastExecuted b.entries id .fail ∨ LastExecuted b.entries id .warn)) ∧
    (id ∈ (ofReports c b).resolved → id ∉ (ofReports b c).unchanged) := by
  obtain ⟨t, ht⟩ := exists_lastExecuted hexecuted
  obtain ⟨s, hs⟩ := exists_lastExecuted hexecuted'
  have hs' : lastStatus b.entries id = some s := lastStatus_eq_some_iff.mpr hs
  have ht' : lastStatus c.entries id = some t := lastStatus_eq_some_iff.mpr ht
  have hforth : ∀ change, id ∈ group c b change ↔ Change.of (some s) (some t) = change := fun change => by
    rw [mem_group_iff_of_executed hc ht, hs']
  have hback : ∀ change, id ∈ group b c change ↔ Change.of (some t) (some s) = change := fun change => by
    rw [mem_group_iff_of_executed hb hs, ht']
  simp only [ofReports, hforth, hback, ← lastStatus_eq_some_iff]
  refine ⟨(Change.of_reverse s t).1, ?_, (Change.of_reverse s t).2⟩
  rw [Change.of_eq_resolved_iff, hs', ht']

/-- A warning has gone in the first of these reports, and a check passes that failed in the second one. -/
theorem resolved_iff_worse_sample :
    let c : Report := ⟨0, "h", "reference", [⟨"A", "first", .sort, "", some (.pass "sorted" 1)⟩,
      ⟨"B", "second", .sort, "", some (.fail "out of order" "" 1)⟩], 3⟩
    let b : Report := ⟨0, "h", "reference", [⟨"B", "second", .sort, "", some (.pass "sorted" 1)⟩,
      ⟨"A", "first", .sort, "", some (.warn "slow" "" 1)⟩], 3⟩
    (c.entries.map Entry.id).Nodup ∧ (b.entries.map Entry.id).Nodup ∧ ¬NeverExecuted c.entries "A" ∧
      ¬NeverExecuted b.entries "A" ∧ "A" ∈ (ofReports c b).resolved ∧
      ("A" ∈ (ofReports b c).regressions ∨ "A" ∈ (ofReports b c).newWarnings) ∧ "A" ∉ (ofReports b c).unchanged := by
  intro c b
  have hc : (c.entries.map Entry.id).Nodup := by decide
  have hb : (b.entries.map Entry.id).Nodup := by decide
  have hpass : LastExecuted c.entries "A" .pass := lastStatus_eq_some_iff.mp rfl
  have hwarn : LastExecuted b.entries "A" .warn := lastStatus_eq_some_iff.mp rfl
  have hexecuted : ¬NeverExecuted c.entries "A" := mt lastStatus_eq_none_iff.mpr (by decide)
  have hexecuted' : ¬NeverExecuted b.entries "A" := mt lastStatus_eq_none_iff.mpr (by decide)
  obtain ⟨hworse, hresolved, hchanged⟩ := resolved_iff_worse_in_reverse hc hb hexecuted hexecuted'
  have hmem : "A" ∈ (ofReports c b).resolved := hresolved.mpr ⟨hpass, Or.inr hwarn⟩
  exact ⟨hc, hb, hexecuted, hexecuted', hmem, hworse.mp hmem, hchanged hmem⟩

end Comparison

end KernelAudit
