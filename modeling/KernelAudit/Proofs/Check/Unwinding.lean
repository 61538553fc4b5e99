import KernelAudit.Check.Config
import KernelAudit.Proofs.Check.Executed

/-! Checks that may unwind. What is raised when the leavings of a fault are dropped is caught by nobody: it unwinds
    the run, which gives no report then. A run that does give one has gone as it goes with checks that cannot
    unwind (`Check.settled`), so all that is known of runs of these is known of it. -/

namespace KernelAudit

namespace Check

/-! ### Registries that are shown alike -/

/-- The two checks are shown alike and go behind the same checks. -/
structure ShownAlike {m m' : Type → Type} (check : Check m) (check' : Check m') : Prop where
  entry_eq : check.entry = check'.entry
  dependencies_eq : check.dependencies = check'.dependencies

section
variable {m m' : Type → Type} {check : Check m} {check' : Check m'}

theorem ShownAlike.id_eq (h : ShownAlike check check') : check.id = check'.id :=
  congrArg Entry.id (congrFun h.entry_eq (.skip ""))

theorem ShownAlike.category_eq (h : ShownAlike check check') : check.category = check'.category :=
  congrArg Entry.category (congrFun h.entry_eq (.skip ""))

variable {R : Check m → Check m' → Prop} (hR : ∀ {check check'}, R check check' → ShownAlike check check')
  {checks : List (Check m)} {checks' : List (Check m')} (h : List.Forall₂ R checks checks')
include hR h

theorem map_id_alike : checks.map Check.id = checks'.map Check.id := by
  induction h with
  | nil => rfl
  | cons hcheck _ ih => rw [List.map_cons, List.map_cons, (hR hcheck).id_eq, ih]

theorem ids_alike (selection : Selection) : selection.ids checks = selection.ids checks' := by
  cases selection with
  | all => exact map_id_alike hR h
  | categories chosen =>
    refine map_id_alike hR (List.rel_filter (fun a b hab => ?_) h)
    simp only [decide_eq_true_eq, (hR hab).category_eq]
  | only ids => rfl
  | excluding ids =>
    refine map_id_alike hR (List.rel_filter (fun a b hab => ?_) h)
    simp only [decide_eq_true_eq, (hR hab).id_eq]

theorem find?_alike (id : String) : Option.Rel R (find? checks id) (find? checks' id) := by
  induction h with
  | nil => exact .none
  | @cons _ check' _ _ hcheck _ ih =>
    rw [find?, find?, List.find?_cons, List.find?_cons, (hR hcheck).id_eq]
    cases decide (check'.id = id) with
    | true => exact .some hcheck
    | false => exact ih

theorem dependenciesOf_alike : dependenciesOf checks = dependenciesOf checks' := by
  funext id
  have hfound := find?_alike hR h id
  rw [dependenciesOf, dependenciesOf]
  generalize find? checks id = found, find? checks' id = found' at hfound
  cases hfound with
  | none => rfl
  | some hcheck => exact (hR hcheck).dependencies_eq

theorem plan_alike (ids : List String) : List.Forall₂ R (plan checks ids) (plan checks' ids) := by
  rw [plan, plan, order, order, dependenciesOf_alike hR h]
  exact List.rel_filterMap (R := (· = ·)) (fun id _ hid => hid ▸ find?_alike hR h id) (List.forall₂_refl _)

end

/-! ### Checks that cannot unwind -/

/-- The check as it is for a run that it does not unwind. Where it would unwind it, it fails at once. -/
def settled {m : Type → Type} [Monad m] (check : Check (Faulty m)) : Check m where
  id := check.id
  name := check.name
  category := check.category
  description := check.description
  dependencies := check.dependencies
  execute := do
    match ← check.execute.run with
    | .ok execution => pure execution
    | .error raised => pure ⟨.error raised.text?, 0⟩

section
variable {m : Type → Type} [Monad m]

theorem shownAlike_settled {check : Check (Faulty m)} {check' : Check m} (h : check.settled = check') :
    ShownAlike check check' :=
  h ▸ ⟨rfl, rfl⟩

theorem forall₂_settled (checks : List (Check (Faulty m))) :
    List.Forall₂ (fun check check' => check.settled = check') checks (checks.map settled) :=
  List.forall₂_map_right_iff.mpr (List.forall₂_same.mpr fun _ _ => rfl)

theorem ids_settled (checks : List (Check (Faulty m))) (selection : Selection) :
    selection.ids (checks.map settled) = selection.ids checks :=
  (ids_alike shownAlike_settled (forall₂_settled checks) selection).symm

theorem dependenciesOf_settled (checks : List (Check (Faulty m))) :
    dependenciesOf (checks.map settled) = dependenciesOf checks :=
  (dependenciesOf_alike shownAlike_settled (forall₂_settled checks)).symm

theorem plan_settled (checks : List (Check (Faulty m))) (ids : List String) :
    plan (checks.map settled) ids = (plan checks ids).map settled := by
  have hplan := plan_alike shownAlike_settled (forall₂_settled checks) ids
  rw [← List.forall₂_map_left_iff (f := settled) (R := (· = ·)), List.forall₂_eq_eq_eq] at hplan
  exact hplan.symm

end

/-! ### Runs that end with a report -/

/-- A run executes its first check. If that unwinds it, that is all, and so it is if it ends it with a failure. -/
theorem run_runAll_faulty {m : Type → Type} [Monad m] [LawfulMonad m] (settings : RunSettings) (check : Check (Faulty m))
    (rest : List (Check (Faulty m))) :
    (runAll settings (check :: rest)).run = (do
      match ← check.execute.run with
      | .error raised => pure (.error raised)
      | .ok execution =>
        let entry := check.entry (execution.result settings.timeoutMs check.id)
        if settings.failFast && entry.status? = some .fail then pure (.ok [entry])
        else Except.map (entry :: ·) <$> (runAll settings rest).run) := by
  rw [runAll, run, bind_assoc, ExceptT.run_bind]
  refine bind_congr fun executed => ?_
  cases executed with
  | error raised => rfl
  | ok execution =>
    simp only [pure_bind]
    split
    · rfl
    · rw [bind_pure_comp, ExceptT.run_map]

/-- What a run does when its checks are through. -/
def conclude {m : Type → Type} [Monad m] (host : Host m) (settings : RunSettings) (start : UInt64) (entries : List Entry) :
    m Report := do
  let stop ← host.clock
  let hostname := (← host.hostname).getD "unknown"
  let timestamp ← host.timestamp
  pure { timestamp, hostname, backend := settings.backend, entries, totalDurationMs := stop - start }

/-- A run executes what is planned, and unless that unwinds it, it ends with a report. -/
theorem run_runChecks_faulty {m : Type → Type} [Monad m] [LawfulMonad m] (host : Host m) (settings : RunSettings)
    (checks : List (Check (Faulty m))) (selection : Selection) :
    (runChecks host.faulty settings checks selection).run = (do
      let start ← host.clock
      match ← (runAll settings (plan checks (selection.ids checks))).run with
      | .error raised => pure (.error raised)
      | .ok entries => .ok <$> conclude host settings start entries) := by
  have hlift : ∀ {α : Type} (x : m α), (liftM x : Faulty m α).run = .ok <$> x := fun _ => rfl
  simp only [runChecks, Host.timed, Host.faulty, conclude, bind_assoc, pure_bind, ExceptT.run_bind, hlift, bind_map_left,
    ExceptT.run_pure, map_bind, map_pure]
  refine bind_congr fun start => bind_congr fun executed => ?_
  cases executed <;> rfl

section
variable {σ : Type} {settings : RunSettings} {check : Check (Faulty (StateM σ))} {rest : List (Check (Faulty (StateM σ)))}
  {s s₁ : σ}

theorem run_runAll_cons_of_ok {execution : Execution} (h : check.execute.run.run s = (.ok execution, s₁)) :
    let entry := check.entry (execution.result settings.timeoutMs check.id)
    (runAll settings (check :: rest)).run.run s =
      if settings.failFast && entry.status? = some .fail then (.ok [entry], s₁)
      else
        let later := (runAll settings rest).run.run s₁
        (later.1.map (entry :: ·), later.2) := by
  intro entry
  have hstep : (runAll settings (check :: rest)).run.run s =
      (if settings.failFast && entry.status? = some .fail then pure (.ok [entry])
        else Except.map (entry :: ·) <$> (runAll settings rest).run : StateM σ (Except Fault (List Entry))).run s₁ := by
    rw [run_runAll_faulty, StateT.run_bind, h]
    rfl
  rw [hstep]
  split <;> rfl

theorem run_runAll_cons_of_error {raised : Fault} (h : check.execute.run.run s = (.error raised, s₁)) :
    (runAll settings (check :: rest)).run.run s = (.error raised, s₁) := by
  rw [run_runAll_faulty, StateT.run_bind, h]
  rfl

theorem run_settled_of_ok {execution : Execution} (h : check.execute.run.run s = (.ok execution, s₁)) :
    check.settled.execute.run s = (execution, s₁) := by
  rw [settled, StateT.run_bind, h]
  rfl

/-- Where a run has entries for its checks, it has gone as with checks that cannot unwind. -/
theorem runAll_settled {planned : List (Check (Faulty (StateM σ)))} {entries : List Entry} {s' : σ}
    (h : (runAll settings planned).run.run s = (.ok entries, s')) :
    (runAll settings (planned.map settled)).run s = (entries, s') := by
  induction planned generalizing s entries with
  | nil =>
    cases h
    rfl
  | cons check rest ih =>
    rcases hexecute : check.execute.run.run s with ⟨raised | execution, s₁⟩
    · rw [run_runAll_cons_of_error hexecute] at h
      cases h
    · have hsettled := run_settled_of_ok hexecute
      have hentry : entryAt settings check.settled s = check.entry (execution.result settings.timeoutMs check.id) := by
        rw [entryAt, hsettled]
        rfl
      rw [run_runAll_cons_of_ok hexecute] at h
      rw [List.map_cons, run_runAll_cons, hentry, hsettled]
      split at h
      · next hends =>
        rw [if_pos hends]
        cases h
        rfl
      · next hgoes =>
        rw [if_neg hgoes]
        rcases hlater : (runAll settings rest).run.run s₁ with ⟨raised | later, s₂⟩
        · rw [hlater] at h
          cases h
        · rw [hlater] at h
          cases h
          rw [ih hlater]

/-- Checks that never unwind a run. -/
theorem exists_runAll_of_settles (settings : RunSettings) {planned : List (Check (Faulty (StateM σ)))}
    (h : ∀ check ∈ planned, ∀ s raised, (check.execute.run.run s).1 ≠ .error raised) (s : σ) :
    ∃ entries s', (runAll settings planned).run.run s = (.ok entries, s') := by
  induction planned generalizing s with
  | nil => exact ⟨[], s, rfl⟩
  | cons check rest ih =>
    obtain ⟨hcheck, hrest⟩ := List.forall_mem_cons.mp h
    rcases hexecute : check.execute.run.run s with ⟨raised | execution, s₁⟩
    · exact absurd (congrArg Prod.fst hexecute) (hcheck s raised)
    · obtain ⟨later, s', hlater⟩ := ih hrest s₁
      rw [run_runAll_cons_of_ok hexecute]
      split
      · exact ⟨_, _, rfl⟩
      · rw [hlater]
        exact ⟨_, _, rfl⟩

theorem run_runChecks_state (host : Host (StateM σ)) (settings : RunSettings) (checks : List (Check (Faulty (StateM σ))))
    (selection : Selection) (s : σ) :
    (runChecks host.faulty settings checks selection).run.run s =
      let executed := (runAll settings (plan checks (selection.ids checks))).run.run (host.clock.run s).2
      match executed.1 with
      | .error raised => (.error raised, executed.2)
      | .ok entries =>
        let concluded := (conclude host settings (host.clock.run s).1 entries).run executed.2
        (.ok concluded.1, concluded.2) := by
  have hstep : (runChecks host.faulty settings checks selection).run.run s =
      (do
        match ← (runAll settings (plan checks (selection.ids checks))).run with
        | .error raised => pure (.error raised)
        | .ok entries => .ok <$> conclude host settings (host.clock.run s).1 entries :
          StateM σ (Except Fault Report)).run (host.clock.run s).2 := by
    rw [run_runChecks_faulty]
    rfl
  rw [hstep, StateT.run_bind]
  rcases (runAll settings (plan checks (selection.ids checks))).run.run (host.clock.run s).2 with ⟨_ | _, _⟩ <;> rfl

variable {host : Host (StateM σ)} {checks : List (Check (Faulty (StateM σ)))} {selection : Selection}

/-- The report of a run is the one that checks give which cannot unwind. -/
theorem eq_reportOf_settled {report : Report}
    (h : ((runChecks host.faulty settings checks selection).run.run s).1 = .ok report) :
    report = reportOf host settings (checks.map settled) selection s := by
  rw [run_runChecks_state] at h
  rcases hexecuted : (runAll settings (plan checks (selection.ids checks))).run.run (host.clock.run s).2 with
    ⟨raised | entries, s₁⟩
  · rw [hexecuted] at h
    cases h
  · rw [hexecuted] at h
    have hsettled := runAll_settled hexecuted
    rw [← plan_settled, ← ids_settled] at hsettled
    have hreport : reportOf host settings (checks.map settled) selection s =
        let r := (runAll settings (plan (checks.map settled) (selection.ids (checks.map settled)))).run (host.clock.run s).2
        ((conclude host settings (host.clock.run s).1 r.1).run r.2).1 := rfl
    rw [hreport, hsettled]
    exact (Except.ok.inj h).symm

/-- Checks that never unwind a run let it end with a report. -/
theorem exists_report_of_settles (host : Host (StateM σ)) (settings : RunSettings) (selection : Selection) (s : σ)
    (h : ∀ check ∈ checks, ∀ s raised, (check.execute.run.run s).1 ≠ .error raised) :
    ∃ report, ((runChecks host.faulty settings checks selection).run.run s).1 = .ok report := by
  have hplan : ∀ check ∈ plan checks (selection.ids checks), _ := fun check hcheck => h check (mem_of_mem_plan hcheck)
  obtain ⟨entries, s', hexecuted⟩ := exists_runAll_of_settles settings hplan (host.clock.run s).2
  rw [run_runChecks_state, hexecuted]
  exact ⟨_, rfl⟩

end

end Check

end KernelAudit
