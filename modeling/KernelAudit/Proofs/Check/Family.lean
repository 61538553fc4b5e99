import KernelAudit.Proofs.Check.Conforming
import KernelAudit.Proofs.Check.Coupling
import KernelAudit.Proofs.Kernel.Parts

/-! A family of checks that keep to a part of the machine. Some checks of a registry do what they would do if
    the part were all there is, the others leave the part alone (`Family`). This is so for what is planned too,
    as no dependency leads from a check of the family to another check or back, and from then on only the turns
    of the family can be seen in the part: the entries of the family are those of a run of its checks alone. -/

namespace KernelAudit

variable {σ ν : Type}

section
variable {part : σ → ν}

namespace Builtin
variable {host : Host (StateM σ)} (hhost : host.Spares part)
include hhost

theorem numericChecks_spare {kernel : NumericKernel (StateM σ)} (h : kernel.Spares part) :
    ∀ check ∈ (numericChecks host kernel).map Check.settled, Spares part check.execute := fun check hcheck =>
  Coupled.spares fun n =>
    (List.forall₂_same.mp (numericChecks_coupled (hhost.coupled n) (h.coupled n)) check hcheck).execute

theorem sortChecks_spare {kernel : SortKernel (StateM σ)} (h : kernel.Spares part) (config : Sorting.Config) :
    ∀ check ∈ (sortChecks host kernel config).map Check.settled, Spares part check.execute := fun check hcheck =>
  Coupled.spares fun n =>
    (List.forall₂_same.mp (sortChecks_coupled (hhost.coupled n) (h.coupled n) fun _ _ heq => heq ▸ rfl) check
      hcheck).execute

end Builtin

end

/-! ### Families -/

/-- What a report says of the checks of a family, without the times they took. -/
def Report.entriesOf (report : Report) (mine : String → Bool) : List Entry :=
  (report.entries.filter fun e => mine e.id).map Entry.untimed

namespace Check

/-- The checks of the second list are those of the first whose ids are in the family, as they are on the part
    alone; all other checks leave the part as it is. -/
inductive Family (part : σ → ν) (mine : String → Bool) : List (Check (StateM σ)) → List (Check (StateM ν)) → Prop where
  | nil : Family part mine [] []
  | own {check check' rest rest'} (acts : check.Coupled (Shows part) check') (hid : mine check.id = true)
      (later : Family part mine rest rest') : Family part mine (check :: rest) (check' :: rest')
  | other {check rest rest'} (spares : Spares part check.execute) (hid : mine check.id = false)
      (later : Family part mine rest rest') : Family part mine (check :: rest) rest'

theorem sameUntimed_result {e e' : Execution} (h : EndAlike CheckResult.SameUntimed e.outcome e'.outcome)
    {limit limit' : UInt64} (htime : e.elapsedMs ≤ limit) (htime' : e'.elapsedMs ≤ limit') (id id' : String) :
    (e.result limit id).SameUntimed (e'.result limit' id') := by
  obtain ⟨outcome, elapsedMs⟩ := e
  obtain ⟨outcome', elapsedMs'⟩ := e'
  cases h with
  | ok hsame =>
    rw [result_of_inTime rfl htime, result_of_inTime rfl htime']
    exact hsame
  | error fault => rfl

theorem untimed_entryAt {settings settings' : RunSettings} {S : σ → ν → Prop} {check : Check (StateM σ)}
    {check' : Check (StateM ν)} (h : check.Coupled S check') {s : σ} {n : ν}
    (houtcome : EndAlike CheckResult.SameUntimed (check.execute.run s).1.outcome (check'.execute.run n).1.outcome)
    (htime : (check.execute.run s).1.elapsedMs ≤ settings.timeoutMs)
    (htime' : (check'.execute.run n).1.elapsedMs ≤ settings'.timeoutMs) :
    (entryAt settings check s).untimed = (entryAt settings' check' n).untimed := by
  have hresult : (Execution.result (check.execute.run s).1 settings.timeoutMs check.id).untimed =
      (Execution.result (check'.execute.run n).1 settings'.timeoutMs check'.id).untimed :=
    sameUntimed_result houtcome htime htime' check.id check'.id
  show check.entry _ = check'.entry _
  rw [hresult, h.entry_eq]

namespace Family
variable {part : σ → ν} {mine : String → Bool} {checks rest : List (Check (StateM σ))}
  {own rest' : List (Check (StateM ν))}

theorem append_own (h : List.Forall₂ (Check.Coupled (Shows part)) checks own)
    (hid : ∀ check ∈ checks, mine check.id = true) (later : Family part mine rest rest') :
    Family part mine (checks ++ rest) (own ++ rest') := by
  induction h with
  | nil => exact later
  | cons hcheck _ ih =>
    obtain ⟨hhead, htail⟩ := List.forall_mem_cons.mp hid
    exact .own hcheck hhead (ih htail)

theorem append_others (h : ∀ check ∈ checks, Spares part check.execute) (hid : ∀ check ∈ checks, mine check.id = false)
    (later : Family part mine rest rest') : Family part mine (checks ++ rest) rest' := by
  induction checks with
  | nil => exact later
  | cons check checks ih =>
    obtain ⟨hspares, hspares'⟩ := List.forall_mem_cons.mp h
    obtain ⟨hhead, htail⟩ := List.forall_mem_cons.mp hid
    exact .other hspares hhead (ih hspares' htail)

theorem append (h : Family part mine checks own) (later : Family part mine rest rest') :
    Family part mine (checks ++ rest) (own ++ rest') := by
  induction h with
  | nil => exact later
  | own acts hid _ ih => exact .own acts hid ih
  | other spares hid _ ih => exact .other spares hid ih

/-! ### Plans -/

theorem find?_eq_none (h : Family part mine checks own) {id : String} (hid : mine id = false) :
    Check.find? own id = none := by
  induction h with
  | nil => rfl
  | @own check check' _ _ acts hown _ ih =>
    have hne : check'.id ≠ id := by
      rintro rfl
      rw [← acts.id_eq, hown] at hid
      cases hid
    rw [Check.find?, List.find?_cons_of_neg (by simpa using hne)]
    exact ih
  | other _ _ _ ih => exact ih

theorem find? (h : Family part mine checks own) (id : String) :
    Family part mine (Check.find? checks id).toList (Check.find? own id).toList := by
  induction h with
  | nil => exact .nil
  | @own check check' _ _ acts hown _ ih =>
    rw [Check.find?, Check.find?, List.find?_cons, List.find?_cons, ← acts.id_eq]
    cases decide (check.id = id) with
    | true => exact .own acts hown .nil
    | false => exact ih
  | @other check rest rest' spares hother later ih =>
    rw [Check.find?, List.find?_cons]
    cases hid : decide (check.id = id) with
    | true =>
      obtain rfl := of_decide_eq_true hid
      rw [later.find?_eq_none hother]
      exact .other spares hother .nil
    | false => exact ih

theorem filterMap_find? (h : Family part mine checks own) (ids : List String) :
    Family part mine (ids.filterMap (Check.find? checks)) (ids.filterMap (Check.find? own)) := by
  rw [List.filterMap_eq_flatMap_toList, List.filterMap_eq_flatMap_toList]
  induction ids with
  | nil => exact .nil
  | cons id rest ih => exact (h.find? id).append ih

theorem dependenciesOf_eq (h : Family part mine checks own) {id : String} (hid : mine id = true) :
    dependenciesOf own id = dependenciesOf checks id := by
  induction h with
  | nil => rfl
  | @own check check' _ _ acts _ _ ih =>
    simp only [dependenciesOf, Check.find?, List.find?_cons, ← acts.id_eq] at ih ⊢
    cases decide (check.id = id) with
    | true => exact acts.dependencies_eq.symm
    | false => exact ih
  | @other check _ _ _ hother _ ih =>
    have hne : check.id ≠ id := by
      rintro rfl
      rw [hother] at hid
      cases hid
    rw [ih, dependenciesOf, dependenciesOf, Check.find?, Check.find?, List.find?_cons_of_neg (by simpa using hne)]

/-- What is planned of the family is what its checks alone would plan. -/
theorem plan (h : Family part mine checks own)
    (hclosed : ∀ a b, b ∈ dependenciesOf checks a → mine b = mine a) (ids : List String) :
    Family part mine (Check.plan checks ids) (Check.plan own (ids.filter mine)) := by
  have horder : (order checks ids).filter mine = order own (ids.filter mine) :=
    filter_dependencyOrder (fun _ hid => h.dependenciesOf_eq hid) hclosed
  -- What is left out of the order has no check on the part, so it makes no difference to look it up there too.
  have hown : (order own (ids.filter mine)).filterMap (Check.find? own) =
      (order checks ids).filterMap (Check.find? own) := by
    rw [← horder, List.filterMap_filter]
    refine List.filterMap_congr fun id _ => ?_
    cases hid : mine id with
    | true => rfl
    | false => exact (h.find?_eq_none hid).symm
  rw [Check.plan, Check.plan, hown]
  exact h.filterMap_find? _

/-! ### Runs -/

variable {settings settings' : RunSettings}

/-- Executed in time, the checks of a family give the entries that they give on the part alone. -/
theorem untimed_runAll (h : Family part mine checks own) (hff : settings.failFast = false)
    (hff' : settings'.failFast = false) {s : σ} (htime : InTime settings checks s)
    (htime' : InTime settings' own (part s)) :
    (((runAll settings checks).run s).1.filter fun e => mine e.id).map Entry.untimed =
      ((runAll settings' own).run (part s)).1.map Entry.untimed := by
  -- The induction is on the planned checks, with the machine as the ones before have left it.
  induction h generalizing s with
  | nil => rfl
  | @own check check' rest rest' acts hid _ ih =>
    obtain ⟨hin, hrest⟩ := htime
    obtain ⟨hin', hrest'⟩ := htime'
    obtain ⟨houtcome, hpart⟩ := acts.execute.run s (part s) rfl
    have hentry : (entryAt settings check s).untimed = (entryAt settings' check' (part s)).untimed :=
      untimed_entryAt acts houtcome hin hin'
    have hpart' : (check'.execute.run (part s)).2 = part (check.execute.run s).2 := hpart.symm
    have hkept : mine (entryAt settings check s).id = true := hid
    rw [hpart'] at hrest'
    rw [run_runAll_cons_of_goesOn hff, run_runAll_cons_of_goesOn hff', hpart']
    dsimp only
    rw [List.filter_cons, if_pos hkept, List.map_cons, List.map_cons, hentry, ih hrest hrest']
  | @other check rest rest' spares hid _ ih =>
    obtain ⟨hin, hrest⟩ := htime
    have hdropped : ¬mine (entryAt settings check s).id = true := Bool.eq_false_iff.mp hid
    rw [← spares s] at htime' ⊢
    rw [run_runAll_cons_of_goesOn hff]
    dsimp only
    rw [List.filter_cons, if_neg hdropped, ih hrest htime']

/-- What a report says of a family is what a run of the family on the part alone says. -/
theorem entriesOf_reportOf (h : Family part mine checks own)
    (hclosed : ∀ a b, b ∈ dependenciesOf checks a → mine b = mine a) {host : Host (StateM σ)} (hhost : host.Spares part)
    (hff : settings.failFast = false) (hff' : settings'.failFast = false) {ids : List String} {s : σ}
    (htime : InTime settings (Check.plan checks ids) (host.clock.run s).2)
    (htime' : InTime settings' (Check.plan own (ids.filter mine)) (part s)) :
    (reportOf host settings checks (.only ids) s).entriesOf mine =
      ((runAll settings' (Check.plan own (ids.filter mine))).run (part s)).1.map Entry.untimed := by
  have hreport : (reportOf host settings checks (.only ids) s).entries =
      ((runAll settings (Check.plan checks ids)).run (host.clock.run s).2).1 := rfl
  rw [← hhost.clock s] at htime' ⊢
  rw [Report.entriesOf, hreport]
  exact (h.plan hclosed ids).untimed_runAll hff hff' htime htime'

end Family

end Check

end KernelAudit
