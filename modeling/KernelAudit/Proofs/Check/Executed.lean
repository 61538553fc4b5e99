import KernelAudit.Proofs.Check.Run
import Mathlib.Data.List.Nodup

/-! What a run executes: every selected id that is registered, once, by the first check that has it, and
    no id before the dependencies of it that can go before it. -/

namespace KernelAudit.Check
open KernelAudit.Order

/-! ### The numbers of a plan -/

/-- The numbers of the planned checks. -/
def numbers {m : Type → Type} (checks : List (Check m)) (ids : List String) : List Nat :=
  (numberedPlan checks ids).map Prod.snd

section
variable {m : Type → Type} {checks : List (Check m)} {ids : List String} {id : String} {n : Nat}

theorem firstUnder_iff : (numbered? checks id).map Prod.snd = some n ↔ FirstUnder checks id n := by
  constructor
  · intro h
    obtain ⟨⟨check, _⟩, hsome, rfl⟩ := Option.map_eq_some_iff.mp h
    exact (numbered?_eq_some_iff.mp hsome).2
  · intro h
    obtain ⟨check, hcheck, hrest⟩ := h
    rw [numbered?_eq_some_iff.mpr ⟨hcheck, check, hcheck, hrest⟩]
    rfl

/-- A check is the first under its own id only. -/
theorem FirstUnder.id_eq {check : Check m} (h : FirstUnder checks id n) (hn : checks[n]? = some check) :
    check.id = id := by
  obtain ⟨_, hcheck, hid, -⟩ := h
  rw [hn, Option.some.injEq] at hcheck
  rwa [hcheck]

theorem numbers_eq_filterMap :
    numbers checks ids = (order checks ids).filterMap fun id => (numbered? checks id).map Prod.snd := by
  rw [numbers, numberedPlan, List.map_filterMap]

theorem mem_numbers_iff : n ∈ numbers checks ids ↔ ∃ id ∈ ids, FirstUnder checks id n := by
  rw [numbers_eq_filterMap, List.mem_filterMap]
  simp only [order, mem_dependencyOrder_iff, firstUnder_iff]

theorem nodup_numbers : (numbers checks ids).Nodup := by
  rw [numbers_eq_filterMap]
  refine List.Nodup.filterMap (fun id id' n hid hid' => ?_) (nodup_dependencyOrder (dependenciesOf checks) ids)
  obtain ⟨check, hcheck, rfl, -⟩ := firstUnder_iff.mp hid
  exact (firstUnder_iff.mp hid').id_eq hcheck

theorem isSome_find?_iff : (find? checks id).isSome ↔ id ∈ checks.map Check.id := by
  rw [find?, List.find?_isSome, List.mem_map]
  simp only [decide_eq_true_eq]

/-- The ids of a plan are the registered ones of the order. -/
theorem map_id_plan :
    (plan checks ids).map Check.id = (order checks ids).filter fun id => (find? checks id).isSome := by
  rw [plan, List.map_filterMap, ← List.filterMap_eq_filter]
  refine List.filterMap_congr fun id _ => ?_
  rcases hfind : find? checks id with _ | check
  · simp [Option.guard, hfind]
  · have hid : check.id = id := of_decide_eq_true (List.find?_some (p := fun c : Check m => c.id = id) hfind)
    simp [Option.guard, hfind, hid]

end

/-! ### The executions of a run -/

theorem map_id_of_reported {m : Type → Type} {planned : List (Check m)} {entries : List Entry}
    (h : List.Forall₂ Reported planned entries) : entries.map Entry.id = planned.map Check.id := by
  induction h with
  | nil => rfl
  | cons hhead _ ih =>
    obtain ⟨result, rfl⟩ := hhead
    rw [List.map_cons, List.map_cons, ih]
    rfl

/-- Four checks under three ids, two of which depend on each other. -/
def sampleChecks : List (Check (StateM Unit)) :=
  [⟨"A", "first", .sort, "", ["B", "unknown"], pure ⟨.ok (.pass "" 0), 0⟩⟩,
   ⟨"B", "second", .sort, "", ["C"], pure ⟨.ok (.fail "" "" 0), 0⟩⟩,
   ⟨"C", "third", .sort, "", ["B", "C"], pure ⟨.ok (.pass "" 0), 0⟩⟩,
   ⟨"A", "first again", .sort, "", [], pure ⟨.ok (.pass "" 0), 0⟩⟩]

section
variable {σ : Type} (host : Host (StateM σ)) (settings : RunSettings) (checks : List (Check (StateM σ)))
  (selection : Selection) (s : σ)

/-- The report of a run that begins in the given state. -/
def reportOf : Report := ((runChecks host settings checks selection).run s).1

/-- The numbers of the checks that a run executes, in order. -/
def executions : List Nat := (((runChecks host.logged settings (allLogged checks) selection).run []).run s).1.2

theorem executions_eq :
    executions host settings checks selection s =
      (numbers checks (selection.ids checks)).take
        (reportOf host settings checks selection s).entries.length := by
  rw [executions, run_runChecks_logged]
  rfl

theorem reportOf_reported :
    let entries := (reportOf host settings checks selection s).entries
    let planned := plan checks (selection.ids checks)
    List.Forall₂ Reported (planned.take entries.length) entries ∧
      (settings.failFast = false → entries.length = planned.length) := by
  obtain ⟨entries, s', hrun, hreported⟩ :=
    runAll_reported settings (plan checks (selection.ids checks)) (host.clock.run s).2
  have hentries : (reportOf host settings checks selection s).entries = entries := congrArg Prod.fst hrun
  rw [hentries]
  exact hreported

/-- A run reports on no id twice, also if a failure ends it. -/
theorem nodup_reportOf : ((reportOf host settings checks selection s).entries.map Entry.id).Nodup := by
  obtain ⟨hreported, -⟩ := reportOf_reported host settings checks selection s
  rw [map_id_of_reported hreported, List.map_take, map_id_plan]
  exact ((nodup_dependencyOrder _ _).filter _).sublist (List.take_sublist _ _)

section
variable {host settings checks selection s} (hff : settings.failFast = false)
include hff

theorem plan_reported :
    List.Forall₂ Reported (plan checks (selection.ids checks)) (reportOf host settings checks selection s).entries := by
  obtain ⟨hreported, hlength⟩ := reportOf_reported host settings checks selection s
  rwa [List.take_of_length_le (Nat.le_of_eq (hlength hff).symm)] at hreported

/-- A run that goes on after failures executes all that is planned. -/
theorem executions_eq_numbers :
    executions host settings checks selection s = numbers checks (selection.ids checks) := by
  have hreported : List.Forall₂ Reported (plan checks (selection.ids checks))
      (reportOf host settings checks selection s).entries := plan_reported hff
  refine (executions_eq host settings checks selection s).trans (List.take_of_length_le (Nat.le_of_eq ?_))
  rw [numbers, List.length_map, ← List.length_map Prod.fst, ← plan_eq_map_fst, hreported.length_eq]

/-- There is an entry for each execution, in the order of the executions. -/
theorem executions_reported :
    List.Forall₂ (fun n entry => ∃ check, checks[n]? = some check ∧ Reported check entry)
      (executions host settings checks selection s) (reportOf host settings checks selection s).entries := by
  have hreported : List.Forall₂ Reported (plan checks (selection.ids checks))
      (reportOf host settings checks selection s).entries := plan_reported hff
  rw [executions_eq_numbers hff, numbers, List.forall₂_map_left_iff]
  rw [plan_eq_map_fst, List.forall₂_map_left_iff] at hreported
  have hget : ∀ p ∈ numberedPlan checks (selection.ids checks), checks[p.2]? = some p.1 := by
    intro p hp
    obtain ⟨id, -, hid⟩ := List.mem_filterMap.mp hp
    exact (numbered?_eq_some_iff.mp hid).1
  exact ((List.forall₂_and_left _ _).mpr ⟨hget, hreported⟩).imp fun p entry h => ⟨p.1, h⟩

end

/-- Repeated, unknown and cyclic ids notwithstanding, the order holds every selected id once; and a run that
    goes on after failures executes for every id of it that is registered the first check that has it, once,
    and nothing else. The report has an entry for each execution, in the order of the executions. -/
theorem executes_each_selected_once :
    let ids := selection.ids checks
    let executed := executions host settings checks selection s
    let entries := (reportOf host settings checks selection s).entries
    (order checks ids).Nodup ∧ (∀ id, id ∈ order checks ids ↔ id ∈ ids) ∧
      (settings.failFast = false →
        executed.Nodup ∧ (∀ n, n ∈ executed ↔ ∃ id ∈ ids, FirstUnder checks id n) ∧
        List.Forall₂ (fun n entry => ∃ check, checks[n]? = some check ∧ Reported check entry) executed entries ∧
        entries.map Entry.id = (order checks ids).filter fun id => (find? checks id).isSome) := by
  intro ids executed entries
  refine ⟨nodup_dependencyOrder _ ids, fun id => mem_dependencyOrder_iff _ ids, fun hff => ?_⟩
  have hnumbers : executed = numbers checks ids := executions_eq_numbers hff
  refine ⟨hnumbers ▸ nodup_numbers, fun n => hnumbers ▸ mem_numbers_iff, executions_reported hff, ?_⟩
  rw [map_id_of_reported (plan_reported hff), map_id_plan]

/-- Of the two checks under the repeated id the first one is executed. -/
theorem executes_first_sample :
    let settings : RunSettings := ⟨false, 10, ""⟩
    let executed := executions Host.idle settings sampleChecks (.only ["A", "unknown", "C", "A"]) ()
    settings.failFast = false ∧ executed.Nodup ∧ 0 ∈ executed ∧ 3 ∉ executed := by
  intro settings executed
  obtain ⟨-, -, hrun⟩ :=
    executes_each_selected_once Host.idle settings sampleChecks (.only ["A", "unknown", "C", "A"]) ()
  obtain ⟨hnodup, hmem, -⟩ := hrun rfl
  refine ⟨rfl, hnodup, (hmem 0).mpr ⟨"A", by decide, _, rfl, rfl, fun _ h => absurd h (Nat.not_lt_zero _)⟩, ?_⟩
  intro h
  obtain ⟨id, -, _, hcheck, rfl, hfirst⟩ := (hmem 3).mp h
  obtain rfl := Option.some.inj hcheck
  exact hfirst 0 (by decide) _ rfl rfl

/-- Whenever a check is executed, the selected dependencies of it that cannot reach it again have been
    executed before, as far as they are registered; a failure that ends the run does not change that. -/
theorem executes_dependencies_first {a b : String} (hne : a ≠ b)
    (hedge : Edge (dependenciesOf checks) (selection.ids checks) a b)
    (hback : ¬Reaches (dependenciesOf checks) (selection.ids checks) b a) :
    (a ∈ order checks (selection.ids checks) ∧ Precedes b a (order checks (selection.ids checks))) ∧
      ∀ n check, checks[n]? = some check → check.id = a → ∀ k, FirstUnder checks b k →
        Precedes k n (executions host settings checks selection s) := by
  have hprecedes : Precedes b a (order checks (selection.ids checks)) :=
    ordered_dependencyOrder _ _ a b hedge hne hback
  refine ⟨⟨(mem_dependencyOrder_iff _ _).mpr hedge.1, hprecedes⟩, ?_⟩
  rintro n check hn rfl k hk
  refine Precedes.of_prefix ?_ (executions_eq host settings checks selection s ▸ List.take_prefix _ _)
  rw [numbers_eq_filterMap]
  exact hprecedes.filterMap (firstUnder_iff.mpr hk) fun c hc => ((firstUnder_iff.mp hc).id_eq hn).symm

/-- The second check is part of a cycle, and fails; it goes before the first one all the same. -/
theorem executes_second_before_first_sample :
    let selection := Selection.only ["A", "B", "C", "A"]
    Edge (dependenciesOf sampleChecks) (selection.ids sampleChecks) "A" "B" ∧
      ¬Reaches (dependenciesOf sampleChecks) (selection.ids sampleChecks) "B" "A" ∧
      "A" ∈ order sampleChecks (selection.ids sampleChecks) ∧
      Precedes "B" "A" (order sampleChecks (selection.ids sampleChecks)) ∧
      Precedes 1 0 (executions Host.idle ⟨false, 10, ""⟩ sampleChecks selection ()) := by
  intro selection
  have hedge : Edge (dependenciesOf sampleChecks) (selection.ids sampleChecks) "A" "B" :=
    ⟨by decide, by decide, by decide⟩
  have hnone : ∀ id ∈ ["A", "B", "C", "A"], "A" ∉ dependenciesOf sampleChecks id := by decide
  have hback : ¬Reaches (dependenciesOf sampleChecks) (selection.ids sampleChecks) "B" "A" := by
    intro h
    obtain ⟨id, -, hid, -, hdep⟩ := Relation.TransGen.tail'_iff.mp h
    exact hnone id hid hdep
  obtain ⟨⟨hmem, horder⟩, hrun⟩ :=
    executes_dependencies_first Host.idle ⟨false, 10, ""⟩ sampleChecks selection () (by decide) hedge hback
  refine ⟨hedge, hback, hmem, horder, hrun 0 _ rfl rfl 1 ⟨_, rfl, rfl, ?_⟩⟩
  intro earlier hearlier other hother
  obtain rfl : earlier = 0 := by omega
  obtain rfl := Option.some.inj hother
  decide

end

end KernelAudit.Check
