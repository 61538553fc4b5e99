import KernelAudit.Proofs.Check.Conforming
import KernelAudit.Proofs.Except
import KernelAudit.Proofs.Kernel.Faults

/-! Faults of kernels in a run of the built-in checks. Each check, run on kernels whose uses are written down,
    does what it does without, and its uses of them account for the fault it ends with (`Mirrored`). So a run
    with a record gives the report of the run without; in it the checks take turns, each on what the one before
    has left behind, and wherever the record has a fault the result of the check shows it. A fault that cannot be
    dropped is the last thing a run comes to: it unwinds the run, and nothing else does. -/

namespace KernelAudit

variable {σ τ α : Type} {host : Host (StateM σ)} {notes : KernelUse → List τ}

/-! ### Bodies -/

theorem Mirrors.timed {p : α → Option Fault} {x : StateT (List τ) (StateM σ) α} {y : StateM σ α} (h : Mirrors notes p x y) :
    Mirrors notes (fun r => p r.1) (host.logged.timed x) (host.timed y) := by
  refine Notes.mk fun log s => ?_
  obtain ⟨uses, hrun, haccounts⟩ := h.run log (host.clock.run s).2
  refine ⟨uses, ?_, haccounts⟩
  have hrun' : ((host.logged.timed x).run log).run s =
      ((do
        let r ← x.run log
        let stop ← host.clock
        pure ((r.1, stop - (host.clock.run s).1), r.2) : StateM σ _)).run (host.clock.run s).2 := rfl
  rw [hrun', StateT.run_bind, hrun]
  rfl

namespace Builtin

theorem follows_timed {act : Faulty (StateT (List τ) (StateM σ)) α} {act' : Faulty (StateM σ) α}
    (h : Follows notes some act act') : Follows notes some (timed host.logged act) (timed host act') := by
  refine Follows.lift_bind (Mirrors.timed h) ?_ ?_
  · rintro ⟨outcome, durationMs⟩ hnone
    cases outcome with
    | ok a => exact Follows.of_pure _
    | error fault => cases hnone
  · rintro ⟨outcome, durationMs⟩ fault hfault
    cases outcome with
    | ok a => cases hfault
    | error fault' =>
      cases hfault
      exact ⟨fault, rfl, rfl, rfl⟩

theorem follows_numericValidator (kernel : NumericKernel (StateM σ)) :
    Follows notes some (numericValidator host.logged (kernel.noted fun event => event.uses.flatMap notes))
      (numericValidator host kernel) := by
  have hvalidate := Numeric.follows_validate notes kernel discard
  rw [logged_discard] at hvalidate
  refine Follows.lift_bind (Mirrors.timed hvalidate) ?_ ?_
  · rintro ⟨outcome, durationMs⟩ hnone
    rcases outcome with (fault | reason) | outcome
    · cases hnone
    · exact Follows.of_pure _
    · exact Follows.of_pure _
  · rintro ⟨outcome, durationMs⟩ fault hfault
    rcases outcome with (fault' | reason) | outcome
    · cases hfault
      exact ⟨fault, rfl, rfl, rfl⟩
    · cases hfault
    · cases hfault

theorem follows_sweep {kernel : String} {write : α → String}
    {act : Faulty (StateT (List τ) (StateM σ)) (List (Numeric.Deviation α))}
    {act' : Faulty (StateM σ) (List (Numeric.Deviation α))} (h : Follows notes some act act') :
    Follows notes some (sweep host.logged kernel write act) (sweep host kernel write act') :=
  (follows_timed h).bind fun _ => Follows.of_pure _

theorem follows_entropy {body : Key → Faulty (StateT (List τ) (StateM σ)) CheckResult}
    {body' : Key → Faulty (StateM σ) CheckResult} (h : ∀ entropy, Follows notes some (body entropy) (body' entropy)) :
    Follows notes some (liftM (host.logged (τ := τ)).entropy >>= body) (liftM host.entropy >>= body') :=
  Follows.lift_bind (p := fun _ => none) (Mirrors.lift fun _ => rfl) (fun entropy _ => h entropy) nofun

section
variable (kernel : SortKernel (StateM σ)) (config : Sorting.Config)

theorem follows_sortValidator :
    Follows notes some (sortValidator host.logged (kernel.noted fun use => use.uses.flatMap notes) config)
      (sortValidator host kernel config) := by
  unfold sortValidator
  split
  · exact Follows.of_pure _
  · exact follows_entropy fun entropy =>
      (follows_timed (Sorting.follows_validateSeeded ..)).bind fun _ => Follows.of_pure _

theorem follows_elementPreservation :
    Follows notes some (elementPreservation host.logged (kernel.noted fun use => use.uses.flatMap notes) config)
      (elementPreservation host kernel config) := by
  unfold elementPreservation
  split
  · exact Follows.of_pure _
  · exact follows_entropy fun entropy => (follows_timed (Sorting.follows_findLoss ..)).bind fun _ => Follows.of_pure _

end

end Builtin

/-! ### Executions -/

namespace Check

/-- How an execution ended whose body used the kernels so: a fault in it was caught, and what it had left behind
    was dropped. -/
def Caught (ended : Except Fault Execution) (uses : List KernelUse) : Prop :=
  ∃ outcome elapsedMs, ended = Execution.caught elapsedMs outcome ∧ Accounts uses (faultIn some outcome)

/-- A fault in one of the uses is what the result is about. -/
def ShowsFaults (uses : List KernelUse) (result : CheckResult) : Prop :=
  ∀ use ∈ uses, ∀ fault, use.fault? = some fault → ∃ durationMs,
    result = .fail "Kernel panicked during execution" (fault.text?.getD "An unexpected error occurred") durationMs

/-- An execution unwinds a run exactly if a kernel has left a trap behind. -/
theorem Caught.unwinds_iff {ended : Except Fault Execution} {uses : List KernelUse} (h : Caught ended uses)
    (raised : Fault) : ended = .error raised ↔ ∃ use ∈ uses, use.fault? = some (.trap raised) := by
  obtain ⟨outcome, elapsedMs, rfl, haccounts⟩ := h
  rw [haccounts.fault_iff]
  rcases outcome with (message | _ | raised') | result
  · exact iff_of_false nofun nofun
  · exact iff_of_false nofun nofun
  · have hcaught : Execution.caught elapsedMs (.error (.trap raised')) = .error raised' := rfl
    rw [hcaught, Except.error.injEq, faultIn, Option.some.injEq, Fault.trap.injEq]
  · exact iff_of_false nofun nofun

theorem Caught.shows {execution : Execution} {uses : List KernelUse} (h : Caught (.ok execution) uses)
    (timeoutMs : UInt64) (id : String) : ShowsFaults uses (execution.result timeoutMs id) := by
  intro use huse fault hfault
  obtain ⟨outcome, elapsedMs, hcaught, haccounts⟩ := h
  have hlast := haccounts.fault_iff.mp ⟨use, huse, hfault⟩
  rcases outcome with (message | _ | raised) | result
  · cases hcaught
    cases hlast
    exact ⟨elapsedMs, rfl⟩
  · cases hcaught
    cases hlast
    exact ⟨elapsedMs, rfl⟩
  · cases hcaught
  · cases hlast

/-! ### Registries -/

/-- A check whose uses of kernels are written down, and the check that it is without. -/
structure Mirrored (notes : KernelUse → List τ) (noted : Check (Faulty (StateT (List τ) (StateM σ))))
    (check : Check (Faulty (StateM σ))) : Prop extends ShownAlike noted check where
  execute : Notes notes Caught noted.execute.run check.execute.run

end Check

namespace Builtin

theorem mirrored_check {id name description : String} {category : Category} {dependencies : List String}
    {body : Faulty (StateT (List τ) (StateM σ)) CheckResult} {body' : Faulty (StateM σ) CheckResult}
    (h : Follows notes some body body') :
    Check.Mirrored notes (check host.logged id name category description dependencies body)
      (check host id name category description dependencies body') where
  entry_eq := rfl
  dependencies_eq := rfl
  execute := Notes.bind (Mirrors.timed h) fun p uses haccounts =>
    Notes.of_pure ⟨p.1, p.2, rfl, (List.append_nil uses).symm ▸ haccounts⟩

theorem checks_mirrored (notes : KernelUse → List τ) (host : Host (StateM σ)) (kernels : KernelSet (StateM σ)) (config : Sorting.Config) :
    List.Forall₂ (Check.Mirrored notes) (checks host.logged (kernels.noted notes) config) (checks host kernels config) :=
  .cons (mirrored_check (follows_numericValidator ..))
    (.cons (mirrored_check (follows_sweep (Numeric.follows_sweepFib ..)))
    (.cons (mirrored_check (follows_sweep (Numeric.follows_sweepSingle notes .sqr .sqr ..)))
    (.cons (mirrored_check (follows_sweep (Numeric.follows_sweepSingle notes .ring .ring ..)))
    (.cons (mirrored_check (follows_sortValidator ..))
    (.cons (mirrored_check (follows_elementPreservation ..)) .nil)))))

/-- Kernels that leave no traps behind never unwind a run. -/
theorem checks_settle {kernels : KernelSet (StateM σ)} (h : kernels.Droppable) (config : Sorting.Config) :
    ∀ check ∈ checks host kernels config, ∀ s raised, (check.execute.run.run s).1 ≠ .error raised := by
  have htraps := checks_mirrored trapNotes host kernels config
  have hnone := checks_mirrored noNotes host kernels config
  rw [h.noted_eq] at htraps
  intro check hcheck s raised
  obtain ⟨i, hi, rfl⟩ := List.mem_iff_getElem.mp hcheck
  have hi' := htraps.length_eq ▸ hi
  obtain ⟨uses, hcaught, hunwritten⟩ := (htraps.get hi' hi).execute.exists_unwritten (hnone.get hi' hi).execute s
  intro hraised
  obtain ⟨use, huse, hfault⟩ := (hcaught.unwinds_iff raised).mp hraised
  have hnote := hunwritten use huse
  rw [trapNotes, hfault] at hnote
  cases hnote

end Builtin

/-! ### Runs -/

namespace Check

/-- A machine that has a record of the kernels beside its own state. -/
abbrev Recording (σ : Type) := StateT (List KernelUse) (StateM σ)

/-- A record of everything. -/
abbrev allNotes (use : KernelUse) : List KernelUse := [use]

/-- One after another the checks are executed, each on the record and the machine that the one before it has
    left behind, and each has an entry that shows what faults there were. -/
inductive TakeTurns (settings : RunSettings) :
    List (Check (Faulty (Recording σ))) → List KernelUse → σ → List Entry → List KernelUse → σ → Prop where
  | done {record s} : TakeTurns settings [] record s [] record s
  | turn {check rest record s execution uses s₁ entries record' s'}
      (execute : (check.execute.run.run record).run s = ((.ok execution, record ++ uses), s₁))
      (shows : ShowsFaults uses (execution.result settings.timeoutMs check.id))
      (later : TakeTurns settings rest (record ++ uses) s₁ entries record' s') :
      TakeTurns settings (check :: rest) record s
        (check.entry (execution.result settings.timeoutMs check.id) :: entries) record' s'

theorem TakeTurns.reported {settings : RunSettings} {planned : List (Check (Faulty (Recording σ)))}
    {record record' : List KernelUse} {s s' : σ} {entries : List Entry}
    (h : TakeTurns settings planned record s entries record' s') : List.Forall₂ Reported planned entries := by
  induction h with
  | done => exact .nil
  | turn _ _ _ ih => exact .cons ⟨_, rfl⟩ ih

section
variable {check : Check (Faulty (Recording σ))} {record record' : List KernelUse} {s s₁ : σ} (settings : RunSettings)
  (rest : List (Check (Faulty (Recording σ))))

/-- The first step of a run with a record. -/
theorem run_runAll_recording {execution : Execution}
    (h : (check.execute.run.run record).run s = ((.ok execution, record'), s₁)) :
    let entry := check.entry (execution.result settings.timeoutMs check.id)
    ((runAll settings (check :: rest)).run.run record).run s =
      if settings.failFast && entry.status? = some .fail then ((.ok [entry], record'), s₁)
      else
        let later := ((runAll settings rest).run.run record').run s₁
        ((later.1.1.map (entry :: ·), later.1.2), later.2) := by
  intro entry
  have hstep : ((runAll settings (check :: rest)).run.run record).run s =
      ((if settings.failFast && entry.status? = some .fail then pure (.ok [entry])
        else Except.map (entry :: ·) <$> (runAll settings rest).run :
          Recording σ (Except Fault (List Entry))).run record').run s₁ := by
    rw [run_runAll_faulty, StateT.run_bind, StateT.run_bind, h]
    rfl
  rw [hstep]
  split <;> rfl

theorem run_runAll_recording_of_error {raised : Fault}
    (h : (check.execute.run.run record).run s = ((.error raised, record'), s₁)) :
    ((runAll settings (check :: rest)).run.run record).run s = ((.error raised, record'), s₁) := by
  rw [run_runAll_faulty, StateT.run_bind, StateT.run_bind, h]
  rfl

end

/-- The run ends as the uses of the kernels say: unwound by a trap that one of them has left behind, or else with
    the entries of checks that have taken turns. -/
structure Recounts (settings : RunSettings) (recorded : List (Check (Faulty (Recording σ)))) (record : List KernelUse)
    (s : σ) (outcome : Except Fault (List Entry)) (uses : List KernelUse) (s' : σ) : Prop where
  unwinds_iff : ∀ raised, outcome = .error raised ↔ ∃ use ∈ uses, use.fault? = some (.trap raised)
  takeTurns : ∀ entries, outcome = .ok entries →
    TakeTurns settings (recorded.take entries.length) record s entries (record ++ uses) s'

/-- A run with a record ends as the run without and leaves the machine as that one does. -/
theorem recounts_runAll {recorded : List (Check (Faulty (Recording σ)))} {checks : List (Check (Faulty (StateM σ)))}
    (h : List.Forall₂ (Mirrored allNotes) recorded checks) (settings : RunSettings) (record : List KernelUse) (s : σ) :
    ∃ outcome uses s', (runAll settings checks).run.run s = (outcome, s') ∧
      ((runAll settings recorded).run.run record).run s = ((outcome, record ++ uses), s') ∧
      Recounts settings recorded record s outcome uses s' := by
  -- The induction is on the checks to come, with the record and the machine as the ones before have left them.
  induction h generalizing record s with
  | nil =>
    have hnil : record = record ++ [] := (List.append_nil record).symm
    refine ⟨.ok [], [], s, rfl, by rw [← hnil]; rfl, fun raised => iff_of_false nofun nofun, ?_⟩
    rintro entries ⟨⟩
    rw [← hnil]
    exact .done
  | @cons recordedCheck check recordedRest rest hcheck _ ih =>
    obtain ⟨uses, hrecorded, hcaught⟩ := hcheck.execute.run record s
    rw [List.flatMap_singleton'] at hrecorded
    rcases hexecute : check.execute.run.run s with ⟨raised | execution, s₁⟩
    · -- The check unwinds the run, and the record ends with its uses.
      rw [hexecute] at hrecorded hcaught
      rw [run_runAll_cons_of_error hexecute, run_runAll_recording_of_error settings recordedRest hrecorded]
      refine ⟨.error raised, uses, s₁, rfl, rfl, fun raised' => ?_, nofun⟩
      rw [← hcaught.unwinds_iff, Except.error.injEq, Except.error.injEq]
    · rw [hexecute] at hrecorded hcaught
      have hshows := hcaught.shows settings.timeoutMs recordedCheck.id
      have huntrapped : ∀ raised, ¬∃ use ∈ uses, use.fault? = some (.trap raised) := fun raised htrap =>
        nomatch (hcaught.unwinds_iff raised).mpr htrap
      have hentry : check.entry (execution.result settings.timeoutMs check.id) =
          recordedCheck.entry (execution.result settings.timeoutMs recordedCheck.id) := by
        rw [hcheck.entry_eq, hcheck.id_eq]
      rw [run_runAll_cons_of_ok hexecute, run_runAll_recording settings recordedRest hrecorded, hentry]
      split
      · refine ⟨_, uses, s₁, rfl, rfl, fun raised => iff_of_false nofun (huntrapped raised), ?_⟩
        rintro entries ⟨⟩
        exact .turn hrecorded hshows .done
      · obtain ⟨outcome, more, s', hrun, hrun', hrecounts⟩ := ih (record ++ uses) s₁
        rw [hrun, hrun', List.append_assoc]
        refine ⟨_, uses ++ more, s', rfl, rfl, fun raised => ?_, ?_⟩
        · have hmem : (∃ use ∈ uses ++ more, use.fault? = some (.trap raised)) ↔
              ∃ use ∈ more, use.fault? = some (.trap raised) := by
            simp only [List.mem_append, or_and_right, exists_or]
            exact or_iff_right (huntrapped raised)
          rw [hmem, ← hrecounts.unwinds_iff]
          exact map_eq_error
        · cases outcome with
          | error raised' => exact nofun
          | ok entries =>
            rintro _ ⟨⟩
            rw [← List.append_assoc]
            exact .turn hrecorded hshows (hrecounts.takeTurns entries rfl)


/-- A run that goes on after failures and is not unwound has an entry for each planned check. -/
theorem length_runAll {settings : RunSettings} (hff : settings.failFast = false)
    {planned : List (Check (Faulty (StateM σ)))} {entries : List Entry} {s s' : σ}
    (h : (runAll settings planned).run.run s = (.ok entries, s')) : entries.length = planned.length := by
  obtain ⟨_, _, hsettled, -, hlength⟩ := runAll_reported settings (planned.map settled) s
  obtain ⟨rfl, -⟩ := Prod.mk.inj ((runAll_settled h).symm.trans hsettled)
  rw [hlength hff, List.length_map]

theorem run_runChecks_recording (host : Host (StateM σ)) (settings : RunSettings)
    (checks : List (Check (Faulty (Recording σ)))) (selection : Selection) (record : List KernelUse) (s : σ) :
    ((runChecks host.logged.faulty settings checks selection).run.run record).run s =
      let executed := ((runAll settings (plan checks (selection.ids checks))).run.run record).run (host.clock.run s).2
      match executed.1.1 with
      | .error raised => ((.error raised, executed.1.2), executed.2)
      | .ok entries =>
        let concluded := (conclude host settings (host.clock.run s).1 entries).run executed.2
        ((.ok concluded.1, executed.1.2), concluded.2) := by
  have hstep : ((runChecks host.logged.faulty settings checks selection).run.run record).run s =
      ((do
        match ← (runAll settings (plan checks (selection.ids checks))).run with
        | .error raised => pure (.error raised)
        | .ok entries => .ok <$> conclude host.logged settings (host.clock.run s).1 entries :
          Recording σ (Except Fault Report)).run record).run (host.clock.run s).2 := by
    rw [run_runChecks_faulty]
    rfl
  rw [hstep, StateT.run_bind, StateT.run_bind]
  rcases ((runAll settings (plan checks (selection.ids checks))).run.run record).run (host.clock.run s).2 with
    ⟨⟨_ | _, _⟩, _⟩ <;> rfl

theorem recounts_runChecks {recorded : List (Check (Faulty (Recording σ)))} {checks : List (Check (Faulty (StateM σ)))}
    (h : List.Forall₂ (Mirrored allNotes) recorded checks) (host : Host (StateM σ)) (settings : RunSettings)
    (selection : Selection) (s : σ) :
    ∃ outcome record s' s₁, (runChecks host.faulty settings checks selection).run.run s = (outcome, s') ∧
      ((runChecks host.logged.faulty settings recorded selection).run.run []).run s = ((outcome, record), s') ∧
      (∀ raised, outcome = .error raised ↔ ∃ use ∈ record, use.fault? = some (.trap raised)) ∧
      ∀ report, outcome = .ok report → settings.failFast = false →
        TakeTurns settings (plan recorded (selection.ids recorded)) [] (host.clock.run s).2 report.entries record s₁ := by
  have halike : ∀ {check check'}, Mirrored (σ := σ) allNotes check check' → ShownAlike check check' :=
    Mirrored.toShownAlike
  have hplan : List.Forall₂ (Mirrored allNotes) (plan recorded (selection.ids recorded))
      (plan checks (selection.ids checks)) := ids_alike halike h selection ▸ plan_alike halike h _
  obtain ⟨outcome, record, s₁, hrun, hrecorded, hrecounts⟩ := recounts_runAll hplan settings [] (host.clock.run s).2
  rw [List.nil_append] at hrecorded
  rw [run_runChecks_state, run_runChecks_recording, hrun, hrecorded]
  cases outcome with
  | error raised =>
    refine ⟨.error raised, record, s₁, s₁, rfl, rfl, fun raised' => ?_, nofun⟩
    rw [← hrecounts.unwinds_iff, Except.error.injEq, Except.error.injEq]
  | ok entries =>
    refine ⟨_, record, _, s₁, rfl, rfl, fun raised => ?_, ?_⟩
    · rw [← hrecounts.unwinds_iff]
      exact iff_of_false nofun nofun
    · rintro report ⟨⟩ hff
      have hturns := hrecounts.takeTurns entries rfl
      have hlength := hplan.length_eq.trans (length_runAll hff hrun).symm
      rwa [List.take_of_length_le hlength.le] at hturns

/-- The ids of the executed checks are the selected ones that are registered, each once. -/
theorem ids_of_reported {m : Type → Type} {checks : List (Check m)} {ids : List String} {entries : List Entry}
    (h : List.Forall₂ Reported (plan checks ids) entries) :
    (entries.map Entry.id).Nodup ∧
      ∀ id, id ∈ entries.map Entry.id ↔ id ∈ ids ∧ id ∈ checks.map Check.id := by
  rw [map_id_of_reported h, map_id_plan]
  refine ⟨(nodup_dependencyOrder _ ids).filter _, fun id => ?_⟩
  rw [List.mem_filter, isSome_find?_iff, order, mem_dependencyOrder_iff]

/-- A check that is reported on has been executed. -/
theorem result_ne_none_of_reported {m : Type → Type} {planned : List (Check m)} {entries : List Entry}
    (h : List.Forall₂ Reported planned entries) : ∀ e ∈ entries, e.result ≠ none := by
  induction h with
  | nil => exact fun _ he => nomatch he
  | cons hhead _ ih =>
    obtain ⟨result, rfl⟩ := hhead
    exact List.forall_mem_cons.mpr ⟨Option.some_ne_none result, ih⟩

end Check

/-- On a machine that counts the calls of `fib` the first of them is a fault, and so is every sort; both leave
    behind what is given. -/
def faultingKernels (first sorting : Fault) : KernelSet (StateM Nat) where
  numeric :=
    { fib := fun _ => do
        let calls ← get
        set (calls + 1)
        if calls = 0 then throw first else pure 1
      sqr := fun x => pure x
      ring := fun x => pure x }
  sort := ⟨fun _ _ => throw sorting⟩

theorem droppable_faultingKernels {first sorting : Fault} (hfirst : ∀ raised, first ≠ .trap raised)
    (hsorting : ∀ raised, sorting ≠ .trap raised) : (faultingKernels first sorting).Droppable where
  numeric :=
    { fib := by
        intro index calls raised
        by_cases hcalls : calls = 0
        · subst hcalls
          exact fun heq => hfirst raised (Except.error.inj heq)
        · have hrun : (((faultingKernels first sorting).numeric.fib index).run.run calls).1 =
              (((if calls = 0 then throw first else pure 1 : Faulty (StateM Nat) Int32)).run.run (calls + 1)).1 := rfl
          rw [hrun, if_neg hcalls]
          exact nofun
      sqr := fun _ _ _ => nofun
      ring := fun _ _ _ => nofun }
  sort := ⟨fun _ _ _ _ raised heq => hsorting raised (Except.error.inj heq)⟩

def faultyKernels : KernelSet (StateM Nat) := faultingKernels (.text "crashed") .blank

theorem droppable_faultyKernels : faultyKernels.Droppable := droppable_faultingKernels nofun nofun

end KernelAudit
