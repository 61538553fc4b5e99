import KernelAudit.Proofs.Check.Summary
import KernelAudit.Proofs.Check.Unwinding
import KernelAudit.Proofs.Numeric.Functions
import KernelAudit.Proofs.Sorting.Conforming

/-! The program against its own kernels. A check whose result is known to have a status wherever it
    begins (`Ends`, `Answers`) gives an entry of that status, if it is executed in time; for the built-in
    kernels this is a pass, or a skip where no trials are asked for, so a run of all checks raises no
    alarm. -/

namespace KernelAudit

/-- The status of a check that passes or fails. -/
def Status.ofPassed (passed : Bool) : Status := cond passed .pass .fail

variable {σ : Type}

namespace Check

/-- Executed one after the other, none of the checks takes longer than allowed. -/
def InTime (settings : RunSettings) : List (Check (StateM σ)) → σ → Prop
  | [], _ => True
  | check :: rest, s =>
    (check.execute.run s).1.elapsedMs ≤ settings.timeoutMs ∧ InTime settings rest (check.execute.run s).2

/-- So it is if none of them ever takes longer. -/
theorem InTime.of_forall {settings : RunSettings} {planned : List (Check (StateM σ))}
    (h : ∀ check ∈ planned, ∀ s, (check.execute.run s).1.elapsedMs ≤ settings.timeoutMs) (s : σ) :
    InTime settings planned s := by
  induction planned generalizing s with
  | nil => exact trivial
  | cons check rest ih =>
    obtain ⟨hhead, htail⟩ := List.forall_mem_cons.mp h
    exact ⟨hhead s, ih htail _⟩

/-- No time passes while the check is executed. -/
def Instant (check : Check (StateM σ)) : Prop := ∀ s, (check.execute.run s).1.elapsedMs = 0

theorem InTime.of_instant {settings : RunSettings} {planned : List (Check (StateM σ))}
    (h : ∀ check ∈ planned, Instant check) (s : σ) : InTime settings planned s := by
  refine .of_forall (fun check hcheck s => ?_) s
  rw [h check hcheck s]
  exact UInt64.zero_le

/-- Wherever it begins, the check ends without a fault and with a result that has the status. -/
def Answers (check : Check (Faulty (StateM σ))) (way : Status) : Prop :=
  ∀ s, ∃ result elapsedMs, (check.execute.run.run s).1 = .ok ⟨.ok result, elapsedMs⟩ ∧ result.status = way

theorem Answers.settles {check : Check (Faulty (StateM σ))} {way : Status} (h : check.Answers way) (s : σ)
    (raised : Fault) : (check.execute.run.run s).1 ≠ .error raised := by
  obtain ⟨result, elapsedMs, hok, -⟩ := h s
  rw [hok]
  exact nofun

theorem Answers.settled {check : Check (Faulty (StateM σ))} {way : Status} (h : check.Answers way) (s : σ) :
    ∃ result, (check.settled.execute.run s).1.outcome = .ok result ∧ result.status = way := by
  obtain ⟨result, elapsedMs, hok, hway⟩ := h s
  rw [run_settled_of_ok (Prod.ext hok rfl)]
  exact ⟨result, rfl, hway⟩

theorem result_of_inTime {execution : Execution} {timeoutMs : UInt64} {id : String} {result : CheckResult}
    (hok : execution.outcome = .ok result) (htime : execution.elapsedMs ≤ timeoutMs) :
    execution.result timeoutMs id = result := by
  have hover : ¬execution.elapsedMs > timeoutMs := Std.not_lt.mpr htime
  rw [Execution.result, hok]
  exact if_neg hover

theorem status?_entryAt {settings : RunSettings} {check : Check (Faulty (StateM σ))} {way : Status} {s : σ}
    (h : check.Answers way) (htime : (check.settled.execute.run s).1.elapsedMs ≤ settings.timeoutMs) :
    (entryAt settings check.settled s).status? = some way := by
  obtain ⟨result, hok, hway⟩ := h.settled s
  rw [entryAt, result_of_inTime hok htime]
  exact congrArg some hway

/-- Checks that answer in time and do not fail are all executed. -/
theorem runAll_of_answers {settings : RunSettings} {planned : List (Check (Faulty (StateM σ)))} {ways : List Status}
    (h : List.Forall₂ Answers planned ways) (hfail : .fail ∉ ways) {s : σ}
    (htime : InTime settings (planned.map Check.settled) s) :
    ((runAll settings (planned.map Check.settled)).run s).1.map (fun e => (e.id, e.status?)) =
      List.zipWith (fun check way => (check.id, some way)) planned ways := by
  induction h generalizing s with
  | nil => rfl
  | @cons check way rest ways hcheck _ ih =>
    rw [List.mem_cons, not_or] at hfail
    obtain ⟨hin, hrest⟩ := htime
    have hstatus : (entryAt settings check.settled s).status? = some way := status?_entryAt hcheck hin
    have hgoes : ¬(settings.failFast && (entryAt settings check.settled s).status? = some .fail) = true := by
      rw [hstatus, decide_eq_false fun heq => hfail.1 (Option.some.inj heq).symm, Bool.and_false]
      exact Bool.false_ne_true
    rw [List.map_cons, run_runAll_cons, if_neg hgoes, List.map_cons, List.zipWith_cons_cons, hstatus, ih hfail.2 hrest]
    rfl

end Check

/-! ### The built-in checks -/

namespace Builtin
variable {host : Host (StateM σ)} {way : Status}

/-- Wherever it begins, the body of a check ends without a fault and with a result of the status. -/
def Ends (body : Faulty (StateM σ) CheckResult) (way : Status) : Prop :=
  ∀ s, ∃ result, (body.run.run s).1 = .ok result ∧ result.status = way

theorem answers_check {id name description : String} {category : Category} {dependencies : List String}
    {body : Faulty (StateM σ) CheckResult} (h : Ends body way) :
    (check host id name category description dependencies body).Answers way := by
  intro s
  obtain ⟨result, hok, hway⟩ := h (host.clock.run s).2
  have hexecute : ((check host id name category description dependencies body).execute.run.run s).1 =
      Execution.caught ((host.timed body.run).run s).1.2 (body.run.run (host.clock.run s).2).1 := rfl
  rw [hexecute, hok]
  exact ⟨result, _, rfl, hway⟩

theorem ends_timed {α : Type} {act : Faulty (StateM σ) α} {a : α} (hact : act = pure a)
    {result : α × UInt64 → CheckResult} (hresult : ∀ durationMs, (result (a, durationMs)).status = way) :
    Ends (do return result (← timed host act)) way := by
  subst hact
  exact fun s => ⟨_, rfl, hresult _⟩

theorem ends_of_entropy {body : Key → Faulty (StateM σ) CheckResult} (h : ∀ entropy, Ends (body entropy) way) :
    Ends (do let entropy ← (host.entropy : StateM σ Key); body entropy : Faulty (StateM σ) CheckResult) way :=
  fun s => h (host.entropy.run s).1 (host.entropy.run s).2

theorem ends_numericValidator {kernel : NumericKernel (StateM σ)} {outcome : Numeric.Outcome}
    (h : Numeric.validate kernel discard = pure outcome) :
    Ends (numericValidator host kernel) (.ofPassed outcome.mismatch.isNone) := by
  intro s
  rw [numericValidator, h]
  refine ⟨_, rfl, ?_⟩
  rw [numericResult]
  cases outcome.mismatch <;> rfl

theorem ends_sweep {α : Type} {kernel : String} {write : α → String}
    {act : Faulty (StateM σ) (List (Numeric.Deviation α))} {deviations : List (Numeric.Deviation α)}
    (h : act = pure deviations) : Ends (sweep host kernel write act) (.ofPassed deviations.isEmpty) := by
  refine ends_timed h fun durationMs => ?_
  rw [sweepResult]
  cases deviations.isEmpty <;> rfl

theorem validate_reference : Numeric.validate (Reference.numeric : NumericKernel (StateM σ)) discard =
    pure ⟨Numeric.referenceSequence, none⟩ := by
  rw [← Numeric.outcomeOf_reference]
  exact Numeric.validateAll_ofFunctions ..

theorem sweepFib_reference : Numeric.sweepFib (Reference.numeric : NumericKernel (StateM σ)) = pure [] := by
  rw [← Numeric.fibDeviations_reference]
  exact Numeric.sweepFib_ofFunctions ..

theorem sweepSqr_reference : Numeric.sweepSqr (Reference.numeric : NumericKernel (StateM σ)) = pure [] := by
  rw [← Numeric.singleDeviations_sqr_reference]
  exact Numeric.sweepSingle_pure ..

theorem sweepRing_reference : Numeric.sweepRing (Reference.numeric : NumericKernel (StateM σ)) = pure [] := by
  rw [← Numeric.singleDeviations_ring_reference]
  exact Numeric.sweepSingle_pure ..

section
variable {kernel : SortKernel (StateM σ)} {config : Sorting.Config}

/-- Without trials a sort check is skipped. -/
def sortStatus (config : Sorting.Config) : Status := if config.trials = 0 then .skip else .pass

theorem ends_sortValidator (h : kernel.Conforms config.bufferLen) :
    Ends (sortValidator host kernel config) (sortStatus config) := by
  unfold sortValidator sortStatus
  split
  · exact fun s => ⟨noTrials, rfl, rfl⟩
  · exact ends_of_entropy fun entropy => ends_timed (Sorting.validateSeeded_of_conforms h entropy) fun _ => rfl

theorem ends_elementPreservation (h : kernel.Conforms config.bufferLen) :
    Ends (elementPreservation host kernel config) (sortStatus config) := by
  unfold elementPreservation sortStatus
  split
  · exact fun s => ⟨noTrials, rfl, rfl⟩
  · exact ends_of_entropy fun entropy => ends_timed (Sorting.findLoss_of_conforms h _) fun _ => rfl

end

/-- The ways in which the built-in checks end against the built-in kernels, in the order of the checks. -/
def statuses (config : Sorting.Config) : List Status :=
  [.pass, .pass, .pass, .pass, sortStatus config, sortStatus config]

theorem checks_answer {config : Sorting.Config} (h : config.bufferLen ≤ Sorting.Config.maxLength) :
    List.Forall₂ Check.Answers (checks host Reference.kernels config) (statuses config) := by
  have hconforms := Reference.conforms_sort (m := StateM σ) h
  exact .cons (answers_check (ends_numericValidator validate_reference))
    (.cons (answers_check (ends_sweep sweepFib_reference))
    (.cons (answers_check (ends_sweep sweepSqr_reference))
    (.cons (answers_check (ends_sweep sweepRing_reference))
    (.cons (answers_check (ends_sortValidator hconforms))
    (.cons (answers_check (ends_elementPreservation hconforms)) .nil)))))

section
variable {m : Type → Type} [Monad m] (host : Host m) (kernels : KernelSet m) (config : Sorting.Config)

theorem map_id_checks : (checks host kernels config).map Check.id =
    ["NUM-001", "NUM-002", "NUM-003", "NUM-004", "SORT-001", "SORT-002"] := rfl

/-- The one dependency among the built-in checks. -/
theorem dependenciesOf_checks {id : String} (h : id ∈ (checks host kernels config).map Check.id) :
    Check.dependenciesOf (checks host kernels config) id = if id = "SORT-002" then ["SORT-001"] else [] := by
  rw [map_id_checks] at h
  simp only [List.mem_cons, List.not_mem_nil, or_false] at h
  rcases h with rfl | rfl | rfl | rfl | rfl | rfl <;> rfl

/-- The built-in checks run in the order of their registration. -/
theorem plan_checks : Check.plan (checks host kernels config) (Selection.all.ids (checks host kernels config)) =
    checks host kernels config := by
  refine Check.plan_all ?_ fun a b hedge _ => ?_
  · rw [map_id_checks]
    decide
  · obtain ⟨ha, -, hb⟩ := hedge
    rw [dependenciesOf_checks host kernels config ha] at hb
    split at hb
    · next hid =>
      obtain rfl := List.mem_singleton.mp hb
      rw [map_id_checks, hid]
      exact (Order.precedes_of_not_mem (l := ["NUM-001", "NUM-002", "NUM-003", "NUM-004", "SORT-001"])
        (by decide)).snoc fun _ => by decide
    · cases hb

end

theorem forall_mem_statuses {config : Sorting.Config} : ∀ way ∈ statuses config, way = .pass ∨ way = .skip := by
  unfold statuses sortStatus
  split <;> decide

theorem reportOf_checks {settings : RunSettings} {config : Sorting.Config} {s : σ}
    (hlength : config.bufferLen ≤ Sorting.Config.maxLength)
    (htime : Check.InTime settings ((checks host Reference.kernels config).map Check.settled) (host.clock.run s).2) :
    let report := Check.reportOf host settings ((checks host Reference.kernels config).map Check.settled) .all s
    report.entries.map (fun e => (e.id, e.status?)) =
      List.zipWith (fun check way => (check.id, some way)) (checks host Reference.kernels config) (statuses config) ∧
    report.summary.exitCode = 0 := by
  intro report
  have hfail : .fail ∉ statuses config := fun hmem => by
    rcases forall_mem_statuses _ hmem with h | h <;> cases h
  have hrun : report.entries = ((Check.runAll settings (Check.plan ((checks host Reference.kernels config).map Check.settled)
      (Selection.all.ids ((checks host Reference.kernels config).map Check.settled)))).run (host.clock.run s).2).1 := rfl
  rw [Check.ids_settled, Check.plan_settled, plan_checks] at hrun
  have hentries := Check.runAll_of_answers (checks_answer hlength) hfail htime
  rw [← hrun] at hentries
  refine ⟨hentries, Summary.exitCode_ofEntries_eq_zero_iff.mpr fun e he => ?_⟩
  have hmem : (e.id, e.status?) ∈ report.entries.map fun e => (e.id, e.status?) := List.mem_map_of_mem he
  rw [hentries] at hmem
  obtain ⟨i, hi, hpair⟩ := List.mem_iff_getElem.mp hmem
  rw [List.getElem_zipWith, Prod.mk.injEq] at hpair
  rw [Entry.counted_of_status? hpair.2.symm]
  rcases forall_mem_statuses _ (List.getElem_mem _) with hway | hway
  · rw [hway]
    exact ⟨nofun, nofun⟩
  · rw [hway]
    exact ⟨nofun, nofun⟩

/-- Against the built-in kernels no check unwinds a run. -/
theorem checks_reference_settle {config : Sorting.Config} (h : config.bufferLen ≤ Sorting.Config.maxLength) :
    ∀ check ∈ checks host Reference.kernels config, ∀ s raised, (check.execute.run.run s).1 ≠ .error raised := by
  intro check hcheck
  obtain ⟨i, hi, rfl⟩ := List.mem_iff_getElem.mp hcheck
  have hanswers := (checks_answer h).get hi ((checks_answer h).length_eq ▸ hi)
  exact hanswers.settles

end Builtin

theorem RunConfig.runWith_of_valid {m : Type → Type} [Monad m] {c : RunConfig} (h : c.validate = .ok ())
    (host : Host m) (kernels : KernelSet m) :
    c.runWith host kernels =
      .ok <$> runChecks host.faulty c.settings (Builtin.checks host kernels c.sort) c.selection := by
  rw [runWith, h]

/-- The outcome of a run is the report on its checks, unless one of these unwinds it. -/
theorem RunConfig.fst_run_runWith {c : RunConfig} (h : c.validate = .ok ()) (host : Host (StateM σ))
    (kernels : KernelSet (StateM σ)) (s : σ) :
    ((c.runWith host kernels).run.run s).1 =
      ((runChecks host.faulty c.settings (Builtin.checks host kernels c.sort) c.selection).run.run s).1.map .ok := by
  rw [runWith_of_valid h, ExceptT.run_map]
  rfl

/-- A run of all checks against the built-in kernels raises no alarm, if no check takes longer than
    allowed: the numeric checks pass, and so do the sort checks, unless there are no trials and they are
    skipped. The sort validator on its own passes too, with all its trials run, whatever the machine gives for
    a key and whatever source the values are drawn from. -/
theorem builtin_kernels_pass (host : Host (StateM σ)) (c : RunConfig) (s : σ) (hall : c.selection = .all)
    (hlength : c.sort.bufferLen ≤ Sorting.Config.maxLength)
    (htime : Check.InTime c.settings ((Builtin.checks host Reference.kernels c.sort).map Check.settled)
      (host.clock.run s).2) :
    (∃ report, ((c.runWith host Reference.kernels).run.run s).1 = .ok (.ok report) ∧
      report.entries.map (fun e => (e.id, e.status?)) =
        [("NUM-001", some .pass), ("NUM-002", some .pass), ("NUM-003", some .pass), ("NUM-004", some .pass),
          ("SORT-001", some (if c.sort.trials = 0 then .skip else .pass)),
          ("SORT-002", some (if c.sort.trials = 0 then .skip else .pass))] ∧
      report.summary.exitCode = 0) ∧
    (∀ entropy, ∃ outcome,
      Sorting.validateSeeded (Reference.kernels.sort : SortKernel (StateM σ)) c.sort entropy = pure outcome ∧
        outcome.verdict = .pass ∧ outcome.trialsRun = c.sort.trials) ∧
    ∀ {ρ : Type} [Source ρ] (source : ρ), ∃ outcome left,
      Sorting.validate (Reference.kernels.sort : SortKernel (StateM σ)) c.sort source = pure (outcome, left) ∧
        outcome.verdict = .pass ∧ outcome.trialsRun = c.sort.trials := by
  have hvalid : c.validate = .ok () := if_neg (Nat.not_lt.mpr hlength)
  have hconforms := Reference.conforms_sort (m := StateM σ) hlength
  obtain ⟨hentries, hexit⟩ := Builtin.reportOf_checks hlength htime
  obtain ⟨report, hrun⟩ := Check.exists_report_of_settles host c.settings .all s
    (Builtin.checks_reference_settle hlength)
  rw [← Check.eq_reportOf_settled hrun] at hentries hexit
  refine ⟨⟨report, ?_, hentries, hexit⟩, fun entropy => ⟨_, Sorting.validateSeeded_of_conforms hconforms entropy, rfl, rfl⟩,
    fun source => ⟨_, _, Sorting.validate_of_conforms hconforms source, rfl, rfl⟩⟩
  rw [RunConfig.fst_run_runWith hvalid, hall, hrun]
  rfl

namespace Builtin

theorem instant_check {id name description : String} {category : Category} {dependencies : List String}
    {body : Faulty (StateM σ) CheckResult} :
    (check .idle id name category description dependencies body).settled.Instant := by
  intro s
  have hexecute : (check .idle id name category description dependencies body).execute.run.run s =
      (Execution.caught (0 - 0) (body.run.run s).1, (body.run.run s).2) := rfl
  rw [Check.settled, StateT.run_bind, hexecute, UInt64.sub_self]
  rcases (body.run.run s).1 with (message | _ | raised) | result <;> rfl

theorem instant_numericChecks (kernel : NumericKernel (StateM σ)) :
    ∀ check ∈ (numericChecks .idle kernel).map Check.settled, check.Instant := by
  simp only [numericChecks, List.map_cons, List.map_nil, List.forall_mem_cons, instant_check, true_and]
  nofun

theorem instant_sortChecks (kernel : SortKernel (StateM σ)) (config : Sorting.Config) :
    ∀ check ∈ (sortChecks .idle kernel config).map Check.settled, check.Instant := by
  simp only [sortChecks, List.map_cons, List.map_nil, List.forall_mem_cons, instant_check, true_and]
  nofun

end Builtin

/-- On a machine on which no time passes nothing takes longer than allowed. -/
theorem inTime_idle (settings : RunSettings) (config : Sorting.Config) (kernels : KernelSet (StateM σ)) (s : σ) :
    Check.InTime settings ((Builtin.checks .idle kernels config).map Check.settled) s := by
  refine .of_instant ?_ s
  rw [Builtin.checks, List.map_append]
  exact List.forall_mem_append.mpr
    ⟨Builtin.instant_numericChecks kernels.numeric, Builtin.instant_sortChecks kernels.sort config⟩

/-- A thousand trials from an unknown seed, on a machine on which no time passes. -/
theorem builtin_kernels_pass_sample :
    let c : RunConfig := { RunConfig.default with failFast := true, timeoutMs := 0, sort := ⟨1000, 15, none⟩ }
    c.selection = .all ∧ c.sort.bufferLen ≤ Sorting.Config.maxLength ∧
      ∃ report, ((c.runWith (.idle : Host (StateM Unit)) Reference.kernels).run.run ()).1 = .ok (.ok report) ∧
        report.summary.exitCode = 0 := by
  intro c
  have hlength : c.sort.bufferLen ≤ Sorting.Config.maxLength := by decide
  obtain ⟨⟨report, hrun, -, hexit⟩, -⟩ :=
    builtin_kernels_pass .idle c () rfl hlength (inTime_idle c.settings c.sort Reference.kernels ())
  exact ⟨rfl, hlength, report, hrun, hexit⟩

end KernelAudit
