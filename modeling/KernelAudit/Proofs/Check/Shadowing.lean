import KernelAudit.Proofs.Check.Executed

/-! Registries in which ids repeat. A selection picks registered checks and hands on their ids, and what is
    executed for an id is the first check that has it. So a check is lost if another one stands before it
    under its id, and that one is executed in its place, whatever its category is. Just the checks that were
    picked are executed exactly where none of them is shadowed in this way. -/

namespace KernelAudit.Check

section
variable {m : Type → Type} {checks : List (Check m)} {ids : List String} {n k : Nat} {check : Check m}
  {chosen : List Category}

/-- The check stands behind another one that has its id. -/
def Shadowed (checks : List (Check m)) (n : Nat) : Prop :=
  ∃ check earlier other, checks[n]? = some check ∧ earlier < n ∧ checks[earlier]? = some other ∧ other.id = check.id

theorem not_shadowed_iff (hn : checks[n]? = some check) : ¬Shadowed checks n ↔ FirstUnder checks check.id n := by
  constructor
  · intro h
    refine ⟨check, hn, rfl, fun earlier hearlier other hother hid => h ?_⟩
    exact ⟨check, earlier, other, hn, hearlier, hother, hid⟩
  · rintro ⟨_, -, -, hfirst⟩ ⟨_, earlier, other, hn', hearlier, hother, hid⟩
    obtain rfl := Option.some.inj (hn.symm.trans hn')
    exact hfirst earlier hearlier other hother hid

/-- Of the checks with one id only one is not shadowed. -/
theorem eq_of_not_shadowed {other : Check m} (hn : checks[n]? = some check) (hk : checks[k]? = some other)
    (hid : other.id = check.id) (hns : ¬Shadowed checks n) (hks : ¬Shadowed checks k) : n = k := by
  have hfirst := firstUnder_iff.mpr ((not_shadowed_iff hn).mp hns)
  have hfirst' := firstUnder_iff.mpr ((not_shadowed_iff hk).mp hks)
  rw [hid, hfirst] at hfirst'
  exact Option.some.inj hfirst'

theorem nodup_iff_not_shadowed : (checks.map Check.id).Nodup ↔ ∀ n < checks.length, ¬Shadowed checks n := by
  rw [List.nodup_iff_getElem?_ne_getElem?]
  simp only [List.getElem?_map, List.length_map]
  constructor
  · rintro h n hlt ⟨check, earlier, other, hn, hearlier, hother, hid⟩
    have hne := h earlier n hearlier hlt
    rw [hn, hother, Option.map_some, Option.map_some, hid] at hne
    exact hne rfl
  · intro h earlier n hearlier hlt heq
    have hlt' : earlier < checks.length := Nat.lt_trans hearlier hlt
    rw [List.getElem?_eq_getElem hlt, List.getElem?_eq_getElem hlt'] at heq
    exact h n hlt ⟨checks[n], earlier, checks[earlier], List.getElem?_eq_getElem hlt, hearlier,
      List.getElem?_eq_getElem hlt', Option.some.inj heq⟩

theorem mem_numbers_iff_of_getElem? (hn : checks[n]? = some check) :
    n ∈ numbers checks ids ↔ ¬Shadowed checks n ∧ check.id ∈ ids := by
  rw [mem_numbers_iff, not_shadowed_iff hn]
  constructor
  · rintro ⟨id, hid, hfirst⟩
    obtain rfl := hfirst.id_eq hn
    exact ⟨hfirst, hid⟩
  · rintro ⟨hfirst, hid⟩
    exact ⟨check.id, hid, hfirst⟩

theorem mem_numbers_all_iff (hn : checks[n]? = some check) :
    n ∈ numbers checks (Selection.all.ids checks) ↔ ¬Shadowed checks n := by
  rw [mem_numbers_iff_of_getElem? hn]
  exact and_iff_left (List.mem_map_of_mem (List.mem_of_getElem? hn))

theorem mem_numbers_categories_iff (hn : checks[n]? = some check) :
    n ∈ numbers checks ((Selection.categories chosen).ids checks) ↔
      ¬Shadowed checks n ∧ ∃ other ∈ checks, other.category ∈ chosen ∧ other.id = check.id := by
  rw [mem_numbers_iff_of_getElem? hn]
  simp only [Selection.ids, List.mem_map, List.mem_filter, decide_eq_true_eq, and_assoc]

theorem numbers_all_complete_iff :
    (∀ n < checks.length, n ∈ numbers checks (Selection.all.ids checks)) ↔ (checks.map Check.id).Nodup := by
  rw [nodup_iff_not_shadowed]
  exact forall₂_congr fun n hlt => mem_numbers_all_iff (List.getElem?_eq_getElem hlt)

/-- Just the checks of the chosen categories are planned exactly if none of them is shadowed. -/
theorem numbers_categories_exact_iff :
    (∀ n check, checks[n]? = some check →
        (n ∈ numbers checks ((Selection.categories chosen).ids checks) ↔ check.category ∈ chosen)) ↔
      ∀ n check, checks[n]? = some check → check.category ∈ chosen → ¬Shadowed checks n := by
  constructor
  · intro h n check hn hchosen
    exact ((mem_numbers_categories_iff hn).mp ((h n check hn).mpr hchosen)).1
  · intro h n check hn
    rw [mem_numbers_categories_iff hn]
    constructor
    · rintro ⟨hns, other, hmem, hchosen, hid⟩
      obtain ⟨k, hk⟩ := List.mem_iff_getElem?.mp hmem
      obtain rfl := eq_of_not_shadowed hn hk hid hns (h k other hk hchosen)
      obtain rfl := Option.some.inj (hn.symm.trans hk)
      exact hchosen
    · intro hchosen
      exact ⟨h n check hn hchosen, check, List.mem_of_getElem? hn, hchosen, rfl⟩

end

section
variable {σ : Type} (host : Host (StateM σ)) (settings : RunSettings) (checks : List (Check (StateM σ)))
  (chosen : List Category) (s : σ)

/-- A run that goes on after failures executes each check at most once and reports each execution. A run of
    everything executes the checks that are not shadowed, so it leaves none out exactly if the ids are
    distinct. A run of categories executes a check that is not shadowed if some check of its id is of such
    a category; so it executes just the checks of these categories exactly if none of them is shadowed. -/
theorem executes_unshadowed (hff : settings.failFast = false) :
    let executed := fun selection => executions host settings checks selection s
    (∀ selection, (executed selection).Nodup ∧
      List.Forall₂ (fun n entry => ∃ check, checks[n]? = some check ∧ Reported check entry) (executed selection)
        (reportOf host settings checks selection s).entries) ∧
    (∀ n check, checks[n]? = some check →
      (n ∈ executed .all ↔ ¬Shadowed checks n) ∧
      (n ∈ executed (.categories chosen) ↔
        ¬Shadowed checks n ∧ ∃ other ∈ checks, other.category ∈ chosen ∧ other.id = check.id)) ∧
    ((∀ n < checks.length, n ∈ executed .all) ↔ (checks.map Check.id).Nodup) ∧
    ((∀ n check, checks[n]? = some check → (n ∈ executed (.categories chosen) ↔ check.category ∈ chosen)) ↔
      ∀ n check, checks[n]? = some check → check.category ∈ chosen → ¬Shadowed checks n) := by
  intro executed
  have hnumbers : ∀ selection, executed selection = numbers checks (selection.ids checks) := fun _ =>
    executions_eq_numbers hff
  refine ⟨fun selection => ⟨?_, executions_reported hff⟩, ?_, ?_, ?_⟩
  · rw [hnumbers]
    exact nodup_numbers
  · intro n check hn
    rw [hnumbers, hnumbers]
    exact ⟨mem_numbers_all_iff hn, mem_numbers_categories_iff hn⟩
  · rw [hnumbers]
    exact numbers_all_complete_iff
  · rw [hnumbers]
    exact numbers_categories_exact_iff

end

/-- Two checks under one id, of different categories. -/
def sampleShadow : List (Check (StateM Unit)) :=
  [⟨"A", "numeric", .numeric, "", [], pure ⟨.ok (.pass "ok" 1), 0⟩⟩,
   ⟨"A", "sort", .sort, "", [], pure ⟨.ok (.fail "out of order" "" 1), 0⟩⟩]

theorem shadowed_sampleShadow : Shadowed sampleShadow 1 := ⟨_, 0, _, rfl, Nat.zero_lt_one, rfl, rfl⟩

/-- The second check is executed neither with everything nor with its category. -/
theorem executes_unshadowed_sample :
    let settings : RunSettings := ⟨false, 30000, "reference"⟩
    settings.failFast = false ∧ 1 ∉ executions Host.idle settings sampleShadow .all () ∧
      1 ∉ executions Host.idle settings sampleShadow (.categories [.sort]) () := by
  intro settings
  obtain ⟨-, hmem, -⟩ := executes_unshadowed Host.idle settings sampleShadow [.sort] () rfl
  obtain ⟨hall, hcategories⟩ := hmem 1 _ rfl
  exact ⟨rfl, fun h => hall.mp h shadowed_sampleShadow, fun h => (hcategories.mp h).1 shadowed_sampleShadow⟩

theorem entries_sampleShadow (selection : Selection) (h : order sampleShadow (selection.ids sampleShadow) = ["A"]) :
    (reportOf Host.idle ⟨false, 30000, "reference"⟩ sampleShadow selection ()).entries =
      [⟨"A", "numeric", .numeric, "", some (.pass "ok" 1)⟩] := by
  show ((runAll _ (plan sampleShadow (selection.ids sampleShadow))).run ()).1 = _
  rw [plan, h]
  rfl

/-- A failing check is lost from a run of everything, and a check of another category is reported in its
    place in a run of its category. -/
theorem not_reports_each_registered :
    let report := fun selection => reportOf Host.idle ⟨false, 30000, "reference"⟩ sampleShadow selection ()
    sampleShadow.map (fun c => (c.name, c.category)) = [("numeric", .numeric), ("sort", .sort)] ∧
    (report .all).entries.map (fun e => (e.name, e.category)) = [("numeric", .numeric)] ∧
    (report (.categories [.sort])).entries.map (fun e => (e.name, e.category)) = [("numeric", .numeric)] := by
  intro report
  have hall : order sampleShadow (Selection.all.ids sampleShadow) = ["A"] := by
    simp [order, dependencyOrder, Order.walk, Selection.ids, dependenciesOf, find?, sampleShadow]
  have hsort : order sampleShadow ((Selection.categories [.sort]).ids sampleShadow) = ["A"] := by
    simp [order, dependencyOrder, Order.walk, Selection.ids, dependenciesOf, find?, sampleShadow]
  simp only [report]
  rw [entries_sampleShadow _ hall, entries_sampleShadow _ hsort]
  exact ⟨rfl, rfl, rfl⟩

end KernelAudit.Check
