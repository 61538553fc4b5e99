import KernelAudit.Proofs.Check.Containment
import KernelAudit.Proofs.Check.Family

/-! The two families of built-in checks do not interfere. Each kernel has a part of the machine to itself,
    which neither the other kernel nor the host changes; then what a report says of the checks of one kernel is
    told by this kernel, by the part it finds and by the ids selected of these checks. Whatever the other
    kernel does, how its checks are mixed in and how time passes, it says the same. -/

namespace KernelAudit
open Check (Family)

/-! ### Machines with two kernels -/

/-- What a kernel does is told by its part of the machine, and nothing else changes this part. -/
structure Isolated (σ ν τ : Type) where
  host : Host (StateM σ)
  kernels : KernelSet (StateM σ)
  numericPart : σ → ν
  sortPart : σ → τ
  /-- The numeric kernel on its part alone. -/
  numeric : NumericKernel (StateM ν)
  /-- The sort kernel on its part alone. -/
  sort : SortKernel (StateM τ)
  numeric_acts : kernels.numeric.Coupled (Shows numericPart) numeric
  numeric_spares : kernels.numeric.Spares sortPart
  sort_acts : kernels.sort.Coupled (Shows sortPart) sort
  sort_spares : kernels.sort.Spares numericPart
  host_spares_numeric : host.Spares numericPart
  host_spares_sort : host.Spares sortPart

/-- Two kernels on a machine with a part for each, and a host with a part of its own. -/
def Isolated.beside {η ν τ : Type} (host : Host (StateM η)) (numeric : NumericKernel (StateM ν))
    (sort : SortKernel (StateM τ)) : Isolated (η × ν × τ) ν τ where
  host := host.onPart Prod.fst fun s h => (h, s.2)
  kernels := ⟨numeric.onPart (·.2.1) fun s n => (s.1, n, s.2.2), sort.onPart (·.2.2) fun s t => (s.1, s.2.1, t)⟩
  numericPart s := s.2.1
  sortPart s := s.2.2
  numeric := numeric
  sort := sort
  numeric_acts := numeric.coupled_onPart fun _ _ => by rfl
  numeric_spares := numeric.spares_onPart fun _ _ => by rfl
  sort_acts := sort.coupled_onPart fun _ _ => by rfl
  sort_spares := sort.spares_onPart fun _ _ => by rfl
  host_spares_numeric := host.spares_onPart fun _ _ => by rfl
  host_spares_sort := host.spares_onPart fun _ _ => by rfl

theorem KernelSet.Droppable.beside {η ν τ : Type} {host : Host (StateM η)} {numeric : NumericKernel (StateM ν)}
    {sort : SortKernel (StateM τ)} (hnumeric : numeric.Droppable) (hsort : sort.Droppable) :
    (Isolated.beside host numeric sort).kernels.Droppable where
  numeric := ⟨fun index s => hnumeric.fib index s.2.1, fun x s => hnumeric.sqr x s.2.1, fun x s => hnumeric.ring x s.2.1⟩
  sort := ⟨fun low high buffer s => hsort.sort low high buffer s.2.2⟩

/-- A run of selected built-in checks that goes on after failures and ends with a report, and in which no check
    takes too long. -/
structure IsolatedRun (σ ν τ : Type) extends Isolated σ ν τ where
  config : Sorting.Config
  settings : RunSettings
  ids : List String
  start : σ
  report : Report
  goesOn : settings.failFast = false
  reports : ((runChecks host.faulty settings (Builtin.checks host kernels config) (.only ids)).run.run start).1 = .ok report
  inTime : Check.InTime settings (Check.plan ((Builtin.checks host kernels config).map Check.settled) ids)
    (host.clock.run start).2

/-- Kernels that leave no traps behind let a run end with a report. -/
def Isolated.run {σ ν τ : Type} (i : Isolated σ ν τ) (hdroppable : i.kernels.Droppable) (config : Sorting.Config)
    (settings : RunSettings) (ids : List String) (start : σ) (goesOn : settings.failFast = false)
    (inTime : Check.InTime settings (Check.plan ((Builtin.checks i.host i.kernels config).map Check.settled) ids)
      (i.host.clock.run start).2) : IsolatedRun σ ν τ where
  toIsolated := i
  config := config
  settings := settings
  ids := ids
  start := start
  report := Check.reportOf i.host settings ((Builtin.checks i.host i.kernels config).map Check.settled) (.only ids) start
  goesOn := goesOn
  reports := by
    obtain ⟨report, hrun⟩ := Check.exists_report_of_settles i.host settings (.only ids) start
      (Builtin.checks_settle hdroppable config)
    rw [hrun, Check.eq_reportOf_settled hrun]
  inTime := inTime

theorem IsolatedRun.report_eq {σ ν τ : Type} (r : IsolatedRun σ ν τ) : r.report =
    Check.reportOf r.host r.settings ((Builtin.checks r.host r.kernels r.config).map Check.settled) (.only r.ids) r.start :=
  Check.eq_reportOf_settled r.reports

/-! ### The two families -/

namespace Builtin

def numericIds : List String := ["NUM-001", "NUM-002", "NUM-003", "NUM-004"]

def sortIds : List String := ["SORT-001", "SORT-002"]

def isNumeric (id : String) : Bool := id ∈ numericIds

def isSort (id : String) : Bool := id ∈ sortIds

section
variable {m : Type → Type} [Monad m] {host : Host m} {kernels : KernelSet m} {config : Sorting.Config}

theorem of_mem_dependenciesOf {a b : String} (h : b ∈ Check.dependenciesOf (checks host kernels config) a) :
    a = "SORT-002" ∧ b = "SORT-001" := by
  by_cases ha : a ∈ (checks host kernels config).map Check.id
  · rw [dependenciesOf_checks host kernels config ha] at h
    split at h
    · next hid => exact ⟨hid, List.mem_singleton.mp h⟩
    · cases h
  · have hnone : Check.find? (checks host kernels config) a = none := by
      rw [Check.find?, List.find?_eq_none]
      intro check hcheck hid
      exact ha (List.mem_map.mpr ⟨check, hcheck, of_decide_eq_true hid⟩)
    rw [Check.dependenciesOf, hnone] at h
    cases h

/-- No dependency leads from one family to the other. -/
theorem isNumeric_of_mem_dependenciesOf (a b : String)
    (h : b ∈ Check.dependenciesOf ((checks host kernels config).map Check.settled) a) : isNumeric b = isNumeric a := by
  rw [Check.dependenciesOf_settled] at h
  obtain ⟨rfl, rfl⟩ := of_mem_dependenciesOf h
  decide

theorem isSort_of_mem_dependenciesOf (a b : String)
    (h : b ∈ Check.dependenciesOf ((checks host kernels config).map Check.settled) a) : isSort b = isSort a := by
  rw [Check.dependenciesOf_settled] at h
  obtain ⟨rfl, rfl⟩ := of_mem_dependenciesOf h
  decide

theorem forall_numericChecks {kernel : NumericKernel m} {mine : String → Bool} {b : Bool}
    (h : ∀ id ∈ numericIds, mine id = b) : ∀ check ∈ (numericChecks host kernel).map Check.settled, mine check.id = b := by
  intro check hcheck
  have hid : check.id ∈ ((numericChecks host kernel).map Check.settled).map Check.id := List.mem_map_of_mem hcheck
  exact h check.id hid

theorem forall_sortChecks {kernel : SortKernel m} {mine : String → Bool} {b : Bool}
    (h : ∀ id ∈ sortIds, mine id = b) : ∀ check ∈ (sortChecks host kernel config).map Check.settled, mine check.id = b := by
  intro check hcheck
  have hid : check.id ∈ ((sortChecks host kernel config).map Check.settled).map Check.id := List.mem_map_of_mem hcheck
  exact h check.id hid

end

section
variable {σ ν : Type} {part : σ → ν} {host : Host (StateM σ)} {kernels : KernelSet (StateM σ)} {config : Sorting.Config}
  (hhost : host.Spares part)
include hhost

theorem numericFamily {kernel : NumericKernel (StateM ν)} (hacts : kernels.numeric.Coupled (Shows part) kernel)
    (hspares : kernels.sort.Spares part) :
    Family part isNumeric ((checks host kernels config).map Check.settled)
      ((numericChecks .idle kernel).map Check.settled) := by
  have hothers : Family part isNumeric ((sortChecks host kernels.sort config).map Check.settled ++ []) [] :=
    Family.append_others (sortChecks_spare hhost hspares config) (forall_sortChecks (by decide)) .nil
  have hown := Family.append_own (numericChecks_coupled hhost.coupled_idle hacts) (forall_numericChecks (by decide))
    hothers
  rwa [List.append_nil, List.append_nil, ← List.map_append] at hown

theorem sortFamily {kernel : SortKernel (StateM ν)} (hacts : kernels.sort.Coupled (Shows part) kernel)
    (hspares : kernels.numeric.Spares part) (hseed : config.seed.isSome) :
    Family part isSort ((checks host kernels config).map Check.settled)
      ((sortChecks .idle kernel config).map Check.settled) := by
  have hgenerator : ∀ e e' : Key, True → config.generator e = config.generator e' := by
    intro e e' _
    obtain ⟨seed, hseed⟩ := Option.isSome_iff_exists.mp hseed
    rw [Sorting.Config.generator, Sorting.Config.generator, hseed]
  have hown : Family part isSort ((sortChecks host kernels.sort config).map Check.settled ++ [])
      ((sortChecks .idle kernel config).map Check.settled ++ []) :=
    Family.append_own (sortChecks_coupled hhost.coupled_idle hacts hgenerator) (forall_sortChecks (by decide)) .nil
  rw [List.append_nil, List.append_nil] at hown
  rw [checks, List.map_append]
  exact Family.append_others (numericChecks_spare hhost hspares) (forall_numericChecks (by decide)) hown

end

end Builtin

/-! ### Two runs -/

/-- What a run of selected checks reports that goes on after failures, without the times. -/
def Check.runAlone {ν : Type} (checks : List (Check (StateM ν))) (ids : List String) (n : ν) : List Entry :=
  ((runAll ⟨false, 0, ""⟩ (plan checks ids)).run n).1.map Entry.untimed

namespace IsolatedRun
variable {σ ν τ : Type} (r : IsolatedRun σ ν τ)

/-- The numeric checks report what they would on the part of their kernel alone. -/
theorem numeric_entries : r.report.entriesOf Builtin.isNumeric =
    Check.runAlone ((Builtin.numericChecks .idle r.numeric).map Check.settled) (r.ids.filter Builtin.isNumeric)
      (r.numericPart r.start) := by
  have hfamily : Family r.numericPart Builtin.isNumeric ((Builtin.checks r.host r.kernels r.config).map Check.settled)
      ((Builtin.numericChecks .idle r.numeric).map Check.settled) :=
    Builtin.numericFamily r.host_spares_numeric r.numeric_acts r.sort_spares
  rw [r.report_eq]
  refine hfamily.entriesOf_reportOf Builtin.isNumeric_of_mem_dependenciesOf r.host_spares_numeric r.goesOn rfl r.inTime ?_
  exact .of_instant (fun check hcheck => Builtin.instant_numericChecks _ check (Check.mem_of_mem_plan hcheck)) _

theorem sort_entries (hseed : r.config.seed.isSome) : r.report.entriesOf Builtin.isSort =
    Check.runAlone ((Builtin.sortChecks .idle r.sort r.config).map Check.settled) (r.ids.filter Builtin.isSort)
      (r.sortPart r.start) := by
  have hfamily : Family r.sortPart Builtin.isSort ((Builtin.checks r.host r.kernels r.config).map Check.settled)
      ((Builtin.sortChecks .idle r.sort r.config).map Check.settled) :=
    Builtin.sortFamily r.host_spares_sort r.sort_acts r.numeric_spares hseed
  rw [r.report_eq]
  refine hfamily.entriesOf_reportOf Builtin.isSort_of_mem_dependenciesOf r.host_spares_sort r.goesOn rfl r.inTime ?_
  exact .of_instant (fun check hcheck => Builtin.instant_sortChecks _ _ check (Check.mem_of_mem_plan hcheck)) _

end IsolatedRun

/-- Of two runs with one numeric kernel, which finds its part in one state, and with the same numeric checks
    selected in the same order, the reports say the same of the numeric checks, in the same order, but for the
    times: whatever the sort kernels and their settings are, whatever state they keep, wherever they fault and
    however the sort checks are mixed in. And so it is for the sort checks of runs with one sort kernel and one
    setting with a seed, whatever the numeric kernels are. -/
theorem families_do_not_interfere :
    (∀ {σ σ' ν τ τ' : Type} (a : IsolatedRun σ ν τ) (b : IsolatedRun σ' ν τ'), a.numeric = b.numeric →
      a.numericPart a.start = b.numericPart b.start →
      a.ids.filter Builtin.isNumeric = b.ids.filter Builtin.isNumeric →
      a.report.entriesOf Builtin.isNumeric = b.report.entriesOf Builtin.isNumeric) ∧
    (∀ {σ σ' ν ν' τ : Type} (a : IsolatedRun σ ν τ) (b : IsolatedRun σ' ν' τ), a.sort = b.sort →
      a.sortPart a.start = b.sortPart b.start → a.config = b.config → a.config.seed.isSome →
      a.ids.filter Builtin.isSort = b.ids.filter Builtin.isSort →
      a.report.entriesOf Builtin.isSort = b.report.entriesOf Builtin.isSort) := by
  refine ⟨fun a b hkernel hpart hids => ?_, fun a b hkernel hpart hconfig hseed hids => ?_⟩
  · rw [a.numeric_entries, b.numeric_entries, hkernel, hpart, hids]
  · rw [a.sort_entries hseed, b.sort_entries (hconfig ▸ hseed), hkernel, hpart, hconfig, hids]

/-- A clock that goes on by as much as it shows, and draws that are never the same. -/
def sampleHost : Host (StateM UInt64) :=
  ⟨pure none, pure 0, modifyGet fun t => (t, 2 * t), modifyGet fun t => (.replicate 8 t.toUInt32, t + 1)⟩

/-- A sort kernel that counts its calls and leaves a buffer alone until it faults. -/
def sampleSort : SortKernel (StateM Nat) where
  sort _ _ := do
    let calls ← getThe Nat
    set (calls + 1)
    if calls < 2 then pure () else throw (.text "out of order")

theorem droppable_sampleSort : sampleSort.Droppable where
  sort low high buffer calls raised := by
    have hrun : (((sampleSort.sort low high).run.run buffer).run calls).1.1 =
        ((((if calls < 2 then pure () else throw (.text "out of order") :
          Faulty (StateT Buffer (StateM Nat)) Unit)).run.run buffer).run (calls + 1)).1.1 := rfl
    rw [hrun]
    split <;> exact nofun

def sampleRun {numeric : NumericKernel (StateM Nat)} {sort : SortKernel (StateM Nat)} (hnumeric : numeric.Droppable)
    (hsort : sort.Droppable) (config : Sorting.Config) (ids : List String) : IsolatedRun (UInt64 × Nat × Nat) Nat Nat :=
  (Isolated.beside sampleHost numeric sort).run (.beside hnumeric hsort) config ⟨false, 0xffffffffffffffff, ""⟩
    ids (1, 0, 0) rfl (.of_forall (fun _ _ _ => UInt64.le_iff_toNat_le.mpr (Nat.le_of_lt_succ (UInt64.toNat_lt _))) _)

section
variable {numeric : NumericKernel (StateM Nat)} {sort : SortKernel (StateM Nat)} (hnumeric : numeric.Droppable)
  (hsort : sort.Droppable) (config : Sorting.Config) (ids : List String)

theorem numeric_sampleRun : (sampleRun hnumeric hsort config ids).numeric = numeric := rfl

theorem sort_sampleRun : (sampleRun hnumeric hsort config ids).sort = sort := rfl

theorem numericPart_sampleRun :
    (sampleRun hnumeric hsort config ids).numericPart (sampleRun hnumeric hsort config ids).start = (0 : Nat) := rfl

theorem sortPart_sampleRun :
    (sampleRun hnumeric hsort config ids).sortPart (sampleRun hnumeric hsort config ids).start = (0 : Nat) := rfl

theorem config_sampleRun : (sampleRun hnumeric hsort config ids).config = config := rfl

end

/-- The runs `a` and `b` share a numeric kernel that faults at once, `a` and `c` a sort kernel that faults in its
    third trial. -/
theorem families_do_not_interfere_sample :
    let a := sampleRun droppable_faultyKernels.numeric droppable_sampleSort ⟨3, 2, some 5⟩
      ["SORT-002", "NUM-002", "SORT-001", "NUM-001"]
    let b := sampleRun droppable_faultyKernels.numeric Reference.droppable.sort .default ["NUM-002", "NUM-001"]
    let c := sampleRun Reference.droppable.numeric droppable_sampleSort ⟨3, 2, some 5⟩ ["NUM-003", "SORT-002", "SORT-001"]
    (a.ids.filter Builtin.isNumeric = b.ids.filter Builtin.isNumeric ∧
      a.report.entriesOf Builtin.isNumeric = b.report.entriesOf Builtin.isNumeric) ∧
    a.ids.filter Builtin.isSort = c.ids.filter Builtin.isSort ∧ a.config.seed.isSome ∧
      a.report.entriesOf Builtin.isSort = c.report.entriesOf Builtin.isSort := by
  intro a b c
  have hnumeric : a.ids.filter Builtin.isNumeric = b.ids.filter Builtin.isNumeric := by decide
  have hsort : a.ids.filter Builtin.isSort = c.ids.filter Builtin.isSort := by decide
  refine ⟨⟨hnumeric, families_do_not_interfere.1 a b ?_ ?_ hnumeric⟩, hsort, rfl,
    families_do_not_interfere.2 a c ?_ ?_ ?_ rfl hsort⟩
  · exact (numeric_sampleRun ..).trans (numeric_sampleRun ..).symm
  · exact (numericPart_sampleRun ..).trans (numericPart_sampleRun ..).symm
  · exact (sort_sampleRun ..).trans (sort_sampleRun ..).symm
  · exact (sortPart_sampleRun ..).trans (sortPart_sampleRun ..).symm
  · exact (config_sampleRun ..).trans (config_sampleRun ..).symm

end KernelAudit
