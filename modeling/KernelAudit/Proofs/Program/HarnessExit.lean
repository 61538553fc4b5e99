import KernelAudit.Program.Run
import KernelAudit.Program.World
import KernelAudit.Proofs.CommandLine.Scan
import KernelAudit.Proofs.Except
import KernelAudit.Proofs.Kernel.Faults

/-! The exit codes of the harness commands. Whoever reads them takes every code but 0 for a pass, so
    what counts is that nothing ends with 1 but a validator that came to its end and passed: neither a
    command line that is not understood, nor settings that are refused, nor a fault. Two things keep such
    a command from ending with 0 or 1: a complaint that the standard error does not take, and the leavings
    of a kernel that fault when they are dropped. Then the program itself faults. -/

namespace KernelAudit

variable {σ : Type} {s : σ}

/-! ### Verdicts -/

namespace Verdict
variable {validator : Faulty (StateM σ) Verdict} {raised : Fault}

theorem fst_run_guarded : ((guarded validator).run.run s).1 =
    match (validator.run.run s).1 with
    | .ok verdict => .ok verdict
    | .error fault => ofFault fault := by
  have hrun : (guarded validator).run = (do
    match ← validator.run with
    | .ok verdict => return .ok verdict
    | .error fault => return ofFault fault) := rfl
  rw [hrun, StateT.run_bind]
  rcases validator.run.run s with ⟨_ | _, s'⟩
  · rfl
  · rfl

theorem ofFault_eq_error_iff {fault : Fault} : ofFault fault = .error raised ↔ fault = .trap raised := by
  cases fault with
  | trap raised' =>
    rw [Fault.trap.injEq]
    exact ⟨fun h => Except.error.inj h, fun h => congrArg Except.error h⟩
  | _ => exact iff_of_false nofun nofun

theorem ofFault_ne_pass {fault : Fault} : ofFault fault ≠ .ok .pass := by
  cases fault <;> nofun

/-- A validator that faults never passes. -/
theorem guarded_eq_pass_iff : ((guarded validator).run.run s).1 = .ok .pass ↔ (validator.run.run s).1 = .ok .pass := by
  rw [fst_run_guarded]
  rcases (validator.run.run s).1 with fault | verdict
  · exact iff_of_false ofFault_ne_pass nofun
  · rfl

theorem guarded_eq_error_iff :
    ((guarded validator).run.run s).1 = .error raised ↔ (validator.run.run s).1 = .error (.trap raised) := by
  rw [fst_run_guarded]
  rcases (validator.run.run s).1 with fault | verdict
  · rw [Except.error.injEq]
    exact ofFault_eq_error_iff
  · exact iff_of_false nofun nofun

end Verdict

theorem faultIn_some_eq_iff {ε α : Type} {fault? : ε → Option Fault} {outcome : Except ε α} {fault : Fault} :
    faultIn fault? outcome = some fault ↔ ∃ e, outcome = .error e ∧ fault? e = some fault := by
  cases outcome with
  | error e =>
    constructor
    · intro h
      exact ⟨e, rfl, h⟩
    · rintro ⟨_, ⟨⟩, h⟩
      exact h
  | ok a =>
    refine iff_of_false nofun ?_
    rintro ⟨_, ⟨⟩, -⟩

namespace Numeric
variable {kernel : NumericKernel (StateM σ)} {sink : Sink (StateM σ)}

/-- What is judged by `verdict`: an output that is refused is a failure. -/
def judged : Except Interruption Outcome → Except Fault Verdict
  | .ok outcome => .ok outcome.verdict
  | .error (.fault fault) => .error fault
  | .error (.output _) => .ok .fail

theorem verdict_eq_guarded : verdict kernel sink = Verdict.guarded (.mk (judged <$> (validate kernel sink).run)) := by
  rw [verdict, map_eq_pure_bind]
  refine congrArg (fun act => Verdict.guarded (ExceptT.mk act)) (bind_congr fun outcome => ?_)
  rcases outcome with (_ | _) | _ <;> rfl

theorem verdict_eq_pass_iff : ((verdict kernel sink).run.run s).1 = .ok .pass ↔
    ∃ outcome, ((validate kernel sink).run.run s).1 = .ok outcome ∧ outcome.verdict = .pass := by
  have hrun : ((ExceptT.mk (judged <$> (validate kernel sink).run)).run.run s).1 =
      judged ((validate kernel sink).run.run s).1 := rfl
  rw [verdict_eq_guarded, Verdict.guarded_eq_pass_iff, hrun]
  rcases ((validate kernel sink).run.run s).1 with (fault | reason) | outcome
  · exact iff_of_false nofun nofun
  · exact iff_of_false nofun nofun
  · constructor
    · intro h
      exact ⟨outcome, rfl, Except.ok.inj h⟩
    · rintro ⟨_, ⟨⟩, h⟩
      exact congrArg Except.ok h

theorem verdict_eq_error_iff {raised : Fault} : ((verdict kernel sink).run.run s).1 = .error raised ↔
    faultIn Interruption.fault? ((validate kernel sink).run.run s).1 = some (.trap raised) := by
  have hrun : ((ExceptT.mk (judged <$> (validate kernel sink).run)).run.run s).1 =
      judged ((validate kernel sink).run.run s).1 := rfl
  rw [verdict_eq_guarded, Verdict.guarded_eq_error_iff, hrun]
  rcases ((validate kernel sink).run.run s).1 with (fault | reason) | outcome
  · exact ⟨fun h => congrArg some (Except.error.inj h), fun h => congrArg Except.error (Option.some.inj h)⟩
  · exact iff_of_false nofun nofun
  · exact iff_of_false nofun nofun

end Numeric

namespace Sorting
variable {kernel : SortKernel (StateM σ)} {config : Config} {entropy : Key}

theorem verdict_eq_pass_iff : ((verdict kernel config entropy).run.run s).1 = .ok .pass ↔
    ∃ outcome, ((validateSeeded kernel config entropy).run.run s).1 = .ok outcome ∧ outcome.verdict = .pass := by
  rw [verdict, Verdict.guarded_eq_pass_iff, ExceptT.run_map]
  exact map_eq_ok

theorem verdict_eq_error_iff {raised : Fault} : ((verdict kernel config entropy).run.run s).1 = .error raised ↔
    faultIn some ((validateSeeded kernel config entropy).run.run s).1 = some (.trap raised) := by
  rw [verdict, Verdict.guarded_eq_error_iff, ExceptT.run_map, faultIn_some_eq_iff]
  exact map_eq_error.trans ⟨fun h => ⟨_, h, rfl⟩, fun ⟨_, h, hfault⟩ => Option.some.inj hfault ▸ h⟩

end Sorting

/-- Whatever is written to the standard error is taken. -/
def System.HearsErrors (sys : System (StateM σ)) : Prop := ∀ text s, ((sys.printError text).run.run s).1 = .ok ()

/-- Whatever the kernels of any backend leave behind when they fault can be dropped. -/
def System.KernelsDroppable (sys : System (StateM σ)) : Prop :=
  ∀ backend kernels, sys.kernels backend = .ok kernels → kernels.Droppable

theorem World.hearsErrors : system.HearsErrors := fun _ _ => rfl

theorem World.kernelsDroppable : system.KernelsDroppable := by
  intro backend kernels h
  cases backend with
  | reference =>
    cases h
    exact Reference.droppable
  | linked => cases h

namespace Program

open CommandLine

theorem harnessExit_eq_one_iff {v : Verdict} : harnessExit v = 1 ↔ v = .pass := by
  cases v <;> decide

theorem harnessExit_eq_zero_or_one (v : Verdict) : harnessExit v = 0 ∨ harnessExit v = 1 := by
  cases v <;> decide

/-! ### The commands -/

/-- The outcome of a harness command: the code of a verdict, which is a pass on one condition, unless the program
    itself faults, which it does on another. -/
structure EndsWith (outcome : Except Fault UInt8) (passes faults : Prop) : Prop where
  eq_one_iff : outcome = .ok 1 ↔ passes
  eq_error_iff : (∃ fault, outcome = .error fault) ↔ faults
  zero_or_one : ∀ code, outcome = .ok code → code = 0 ∨ code = 1

theorem EndsWith.of_verdict {verdict : Except Fault Verdict} {passes faults : Prop} (hpass : verdict = .ok .pass ↔ passes)
    (hfault : (∃ fault, verdict = .error fault) ↔ faults) : EndsWith (verdict.map harnessExit) passes faults where
  eq_one_iff := by
    rw [map_eq_ok, ← hpass]
    constructor
    · rintro ⟨v, hv, hcode⟩
      rw [hv, harnessExit_eq_one_iff.mp hcode]
    · intro h
      exact ⟨.pass, h, harnessExit_eq_one_iff.mpr rfl⟩
  eq_error_iff := by
    rw [← hfault]
    exact exists_congr fun _ => map_eq_error
  zero_or_one := by
    intro code h
    obtain ⟨v, -, rfl⟩ := map_eq_ok.mp h
    exact harnessExit_eq_zero_or_one v

variable {sys : System (StateM σ)} {env : Environment} {globals : Globals} {argv : List Text.Raw}

/-- The kernels are accepted, and the numeric validator comes to its end and passes. -/
def NumericPasses (sys : System (StateM σ)) (globals : Globals) (s : σ) : Prop :=
  ∃ kernels outcome, sys.kernels globals.backend = .ok kernels ∧
    ((Numeric.validate kernels.numeric sys.sink).run.run s).1 = .ok outcome ∧ outcome.verdict = .pass

/-- The settings and the kernels are accepted, and the sort validator, once what it may need for a seed
    is drawn, comes to its end and passes. -/
def SortPasses (sys : System (StateM σ)) (globals : Globals) (config : Sorting.Config) (s : σ) : Prop :=
  ∃ kernels outcome, config.validate = .ok () ∧ sys.kernels globals.backend = .ok kernels ∧
    ((Sorting.validateSeeded kernels.sort config (sys.host.entropy.run s).1).run.run
      (sys.host.entropy.run s).2).1 = .ok outcome ∧ outcome.verdict = .pass

/-- The command is a harness command whose validator passes. -/
def ValidatorPasses (sys : System (StateM σ)) (i : Invocation) (s : σ) : Prop :=
  match i.command with
  | .numeric => NumericPasses sys i.globals s
  | .sort config => SortPasses sys i.globals config s
  | .check _ | .probe _ | .list | .version => False

/-- The error is not taken when it is printed. -/
def Unheard (sys : System (StateM σ)) (e : Error) (s : σ) : Prop :=
  ∃ reason, ((sys.printError (errorText e)).run.run s).1 = .error reason

theorem not_unheard {e : Error} (h : sys.HearsErrors) : ¬Unheard sys e s := by
  rintro ⟨reason, hreason⟩
  cases (h _ s).symm.trans hreason

def NumericFaults (sys : System (StateM σ)) (globals : Globals) (s : σ) : Prop :=
  match sys.kernels globals.backend with
  | .error e => Unheard sys e s
  | .ok kernels => ∃ raised,
    faultIn Numeric.Interruption.fault? ((Numeric.validate kernels.numeric sys.sink).run.run s).1 = some (.trap raised)

def SortFaults (sys : System (StateM σ)) (globals : Globals) (config : Sorting.Config) (s : σ) : Prop :=
  match config.validate, sys.kernels globals.backend with
  | .error e, _ | _, .error e => Unheard sys e s
  | .ok _, .ok kernels => ∃ raised,
    faultIn some ((Sorting.validateSeeded kernels.sort config (sys.host.entropy.run s).1).run.run
      (sys.host.entropy.run s).2).1 = some (.trap raised)

/-- The command is a harness command and faults: the settings or the kernels are refused and the error is not taken,
    or the validator ends with a fault whose leavings cannot be dropped. -/
def CommandFaults (sys : System (StateM σ)) (i : Invocation) (s : σ) : Prop :=
  match i.command with
  | .numeric => NumericFaults sys i.globals s
  | .sort config => SortFaults sys i.globals config s
  | .check _ | .probe _ | .list | .version => False

theorem endsWith_failWith {e : Error} {passes : Prop} (h : ¬passes) :
    EndsWith ((failWith sys (harnessExit .fail) e).run.run s).1 passes (Unheard sys e s) := by
  let said := ((complain sys (errorText e)).run.run s).1
  have hrun : ((failWith sys (harnessExit .fail) e).run.run s).1 = (said.map fun _ => Verdict.fail).map harnessExit := by
    rcases hsay : (complain sys (errorText e)).run.run s with ⟨refused | _, s'⟩
    · rw [failWith, run_bind_of_error hsay]
      simp [said, hsay, Except.map]
    · rw [failWith, run_bind_of_ok hsay]
      simp [said, hsay, Except.map]
      rfl
  have hsaid : said = ((sys.printError (errorText e)).run.run s).1.mapError fun reason =>
      .text s!"failed printing to stderr: {reason}" := rfl
  rw [hrun]
  refine .of_verdict (iff_of_false ?_ h) ?_
  · intro hpass
    obtain ⟨_, -, hverdict⟩ := map_eq_ok.mp hpass
    cases hverdict
  · rw [exists_congr fun _ => map_eq_error, hsaid, Unheard]
    rcases ((sys.printError (errorText e)).run.run s).1 with reason | _
    · exact iff_of_true ⟨_, rfl⟩ ⟨_, rfl⟩
    · exact iff_of_false nofun nofun

theorem runNumeric_endsWith :
    EndsWith ((runNumeric sys globals).run.run s).1 (NumericPasses sys globals s) (NumericFaults sys globals s) := by
  rw [runNumeric, NumericFaults]
  rcases hkernels : sys.kernels globals.backend with e | kernels
  · refine endsWith_failWith ?_
    rintro ⟨_, _, hkernels', -⟩
    cases hkernels.symm.trans hkernels'
  · have hpass : ((Numeric.verdict kernels.numeric sys.sink).run.run s).1 = .ok .pass ↔ NumericPasses sys globals s := by
      rw [Numeric.verdict_eq_pass_iff]
      constructor
      · rintro ⟨outcome, hrun, hpass⟩
        exact ⟨kernels, outcome, hkernels, hrun, hpass⟩
      · rintro ⟨_, outcome, hkernels', hrun, hpass⟩
        cases hkernels.symm.trans hkernels'
        exact ⟨outcome, hrun, hpass⟩
    dsimp only
    rw [ExceptT.run_map]
    exact .of_verdict hpass (exists_congr fun raised => Numeric.verdict_eq_error_iff)

theorem runSort_endsWith {config : Sorting.Config} :
    EndsWith ((runSort sys globals config).run.run s).1 (SortPasses sys globals config s)
      (SortFaults sys globals config s) := by
  rw [runSort, SortFaults]
  rcases hvalid : config.validate with e | valid
  · refine endsWith_failWith ?_
    rintro ⟨_, _, hvalid', -⟩
    cases hvalid.symm.trans hvalid'
  rcases hkernels : sys.kernels globals.backend with e | kernels
  · refine endsWith_failWith ?_
    rintro ⟨_, _, -, hkernels', -⟩
    cases hkernels.symm.trans hkernels'
  · have hpass : ((Sorting.verdict kernels.sort config (sys.host.entropy.run s).1).run.run
        (sys.host.entropy.run s).2).1 = .ok .pass ↔ SortPasses sys globals config s := by
      rw [Sorting.verdict_eq_pass_iff]
      constructor
      · rintro ⟨outcome, hrun, hpass⟩
        exact ⟨kernels, outcome, hvalid, hkernels, hrun, hpass⟩
      · rintro ⟨_, outcome, -, hkernels', hrun, hpass⟩
        cases hkernels.symm.trans hkernels'
        exact ⟨outcome, hrun, hpass⟩
    have hdrawn : sys.host.entropy.run s = ((sys.host.entropy.run s).1, (sys.host.entropy.run s).2) := rfl
    dsimp only
    rw [run_bind_of_ok (run_lift_of_run hdrawn), bind_pure_comp, ExceptT.run_map]
    exact .of_verdict hpass (exists_congr fun raised => Sorting.verdict_eq_error_iff)

theorem not_numericFaults (hhears : sys.HearsErrors) (hdroppable : sys.KernelsDroppable) :
    ¬NumericFaults sys globals s := by
  rw [NumericFaults]
  rcases hkernels : sys.kernels globals.backend with e | kernels
  · exact not_unheard hhears
  · rintro ⟨raised, h⟩
    exact Numeric.validate_ne_trap (hdroppable _ _ hkernels).numeric sys.sink s raised h

theorem not_sortFaults {config : Sorting.Config} (hhears : sys.HearsErrors) (hdroppable : sys.KernelsDroppable) :
    ¬SortFaults sys globals config s := by
  rw [SortFaults]
  rcases config.validate with e | valid
  · exact not_unheard hhears
  rcases hkernels : sys.kernels globals.backend with e | kernels
  · exact not_unheard hhears
  · rintro ⟨raised, h⟩
    exact Sorting.validateSeeded_ne_trap (hdroppable _ _ hkernels).sort config _ _ raised h

/-- No harness command faults where errors are heard and the leavings of kernels can be dropped. -/
theorem not_commandFaults {i : Invocation} (hhears : sys.HearsErrors) (hdroppable : sys.KernelsDroppable) :
    ¬CommandFaults sys i s := by
  rw [CommandFaults]
  split
  · exact not_numericFaults hhears hdroppable
  · exact not_sortFaults hhears hdroppable
  all_goals exact not_false

theorem runCommand_endsWith {i : Invocation} (h : i.command = .numeric ∨ ∃ config, i.command = .sort config) :
    EndsWith ((runCommand sys env i).run.run s).1 (ValidatorPasses sys i s) (CommandFaults sys i s) := by
  rcases h with h | ⟨config, h⟩
  · simp only [runCommand, ValidatorPasses, CommandFaults, h]
    exact runNumeric_endsWith
  · simp only [runCommand, ValidatorPasses, CommandFaults, h]
    exact runSort_endsWith

/-! ### The program -/

/-- How a run ends whose command line is not understood. -/
theorem run_of_error {e : UsageError} (h : parse env argv.tail = .error e) : ((run sys env argv).run s).1 =
    if e.isMistake then (if isHarnessInvocation argv then 0 else runtimeError) else 0 := by
  rw [run, h]
  dsimp only
  rw [endMisunderstood]
  split
  · rfl
  · rfl

/-- The exit code of the program for the outcome of a command. -/
def exitCode : Except Fault UInt8 → UInt8
  | .ok code => code
  | .error _ => faultCode

theorem run_of_ok {i : Invocation} (h : parse env argv.tail = .ok i) :
    ((run sys env argv).run s).1 = exitCode ((runCommand sys env i).run.run s).1 := by
  rw [run, h]
  dsimp only
  rw [StateT.run_bind]
  rcases (runCommand sys env i).run.run s with ⟨_ | _, s'⟩
  · rfl
  · rfl

theorem EndsWith.exitCode {outcome : Except Fault UInt8} {passes faults : Prop} (h : EndsWith outcome passes faults) :
    (exitCode outcome = 1 ↔ passes) ∧ (¬faults → exitCode outcome = 0 ∨ exitCode outcome = 1) ∧
      (exitCode outcome = 0 ∨ exitCode outcome = 1 ∨ exitCode outcome = faultCode) ∧
      (exitCode outcome = faultCode ↔ faults) := by
  rw [← h.eq_one_iff, ← h.eq_error_iff]
  rcases outcome with fault | code
  · have hother : faultCode ≠ 1 := by decide
    refine ⟨iff_of_false hother nofun, fun hnever => absurd ⟨fault, rfl⟩ hnever, .inr (.inr rfl), ?_⟩
    exact iff_of_true rfl ⟨fault, rfl⟩
  · have hcode : code = 0 ∨ code = 1 := h.zero_or_one code rfl
    have hother : code ≠ faultCode := by
      rcases hcode with rfl | rfl
      · decide
      · decide
    refine ⟨?_, fun _ => hcode, hcode.imp_right .inl, iff_of_false hother nofun⟩
    rw [Except.ok.injEq]
    rfl

end Program

end KernelAudit
