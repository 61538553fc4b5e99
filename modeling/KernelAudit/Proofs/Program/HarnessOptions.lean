import KernelAudit.Proofs.CommandLine.Options
import KernelAudit.Proofs.Program.HarnessExit

/-! The exit code of a harness command that options stand before, where the command line is not understood. It is
    that of a failure if the quick look sees the command. Where the value of an option of the sort command misleads
    the look, it is the code of a runtime error, which reads as a pass. -/

namespace KernelAudit

namespace Program

open CommandLine

variable {σ : Type}

/-- With any declared options before a harness command, the quick look sees the command, and a command line that is
    not understood ends with 0, if the values of the options of the sort command are joined to them or look like
    options themselves. Else the first other one of these values decides: it is taken for a command, or ends the
    look, or passes for a shared option whose value comes next. The options of the sort command are refused before
    it, so then the exit code is the runtime error wherever the look is mistaken. -/
theorem harness_exit_behind_options (sys : System (StateM σ)) (env : Environment) (program : Text.Raw)
    (before : List GivenOption) (hdeclared : ∀ g ∈ before, g.Declared) (name : CommandName)
    (hname : name ∈ harnessCommands) (rest : List Text.Raw) (s : σ) :
    let argv := program :: (before.flatMap GivenOption.arguments ++ .ofString name.name :: rest)
    let code := ((run sys env argv).run s).1
    ((∀ g ∈ before, ¬g.Exposes) →
      isHarnessInvocation argv = true ∧ ∀ e, parse env argv.tail = .error e → code = 0) ∧
    (∀ earlier o value later, before = earlier ++ .apart o value :: later → (∀ g ∈ earlier, ¬g.Exposes) →
      o ∈ sortOptions →
      (value.toList.head? ≠ some '-' →
        (isHarnessInvocation argv = true ↔ value ∈ harnessCommands.map CommandName.name)) ∧
      (value = "--" → isHarnessInvocation argv = false) ∧
      (∀ shared ∈ globalOptions, value = "--" ++ shared.name → isHarnessInvocation argv =
        callsHarness (later.flatMap GivenOption.arguments ++ .ofString name.name :: rest).tail)) ∧
    ((∃ g ∈ before, g.OfSort) →
      (∃ e, parse env argv.tail = .error e ∧ e.isMistake = true) ∧
        code = if isHarnessInvocation argv then 0 else runtimeError) := by
  intro argv code
  refine ⟨fun hexposes => ?_, ?_, fun hsort => ?_⟩
  · have hlook : isHarnessInvocation argv = true :=
      (callsHarness_flatMap_arguments hdeclared hexposes _).trans (callsHarness_command hname rest)
    refine ⟨hlook, fun e he => (run_of_error he).trans ?_⟩
    rw [hlook, if_pos rfl, ite_self]
  · rintro earlier o value later rfl hexposes ho
    obtain ⟨hearlier, -⟩ := List.forall_mem_append.mp hdeclared
    let behind := later.flatMap GivenOption.arguments ++ .ofString name.name :: rest
    have hargs : argv.tail =
        earlier.flatMap GivenOption.arguments ++ (.ofString ("--" ++ o.name) :: .ofString value :: behind) := by
      simp [argv, behind, GivenOption.arguments]
    have hlook : isHarnessInvocation argv = callsHarness (.ofString value :: behind) := by
      rw [isHarnessInvocation, hargs, callsHarness_flatMap_arguments hearlier hexposes, passedOver_sortOption ho]
    refine ⟨fun hword => ?_, fun hvalue => ?_, fun shared hshared hvalue => ?_⟩
    · rw [hlook, callsHarness_word hword]
      simp
    · rw [hlook, hvalue]
      exact callsHarness_dashes _
    · rw [hlook, hvalue, callsHarness_sharedOption hshared]
  · obtain ⟨e, he, hmistake⟩ := (mistakenOr_parse_of_sortOption hdeclared hsort).exists_error
    exact ⟨⟨e, he, hmistake⟩, (run_of_error he).trans (if_pos hmistake)⟩

/-- The number of trials is taken for the command, and the run ends with a code that reads as a pass. -/
theorem not_harness_behind_trials :
    let before := [GivenOption.apart (once "trials" .number) "5"]
    let argv := .ofString "refcheck" :: (before.flatMap GivenOption.arguments ++ [.ofString CommandName.sort.name])
    (∀ g ∈ before, g.Declared) ∧ isHarnessInvocation argv = false ∧
      parse (fun _ => none) argv.tail = .error .unknownArgument ∧
      ((run World.system (fun _ => none) argv).run (World.withFiles [])).1 = 3 := by
  intro before argv
  have hdeclared : ∀ g ∈ before, g.Declared := by
    simp only [before, List.forall_mem_singleton]
    exact List.mem_append_left _ List.mem_cons_self
  have hlook : isHarnessInvocation argv = false := by decide +kernel
  have hparse : parse (fun _ => none) argv.tail = .error .unknownArgument := by decide +kernel
  refine ⟨hdeclared, hlook, hparse, (run_of_error hparse).trans ?_⟩
  rw [hlook]
  rfl

/-- A value that spells a command is seen for what it is behind a shared option, and so is a negative number; the
    length of the buffers is not. -/
theorem harness_exit_behind_options_sample :
    let seen := [GivenOption.apart globalOptions[1] "sort", .short 'q', .joined (once "buffer-len" .number) "x",
      .apart (once "trials" .number) "-5"]
    let exposed := [GivenOption.short 'q', .apart (once "buffer-len" .number) "7"]
    let argv (before : List GivenOption) (name : CommandName) : List Text.Raw :=
      .ofString "refcheck" :: (before.flatMap GivenOption.arguments ++ [.ofString name.name])
    let code (argv : List Text.Raw) : UInt8 := ((run World.system (fun _ => none) argv).run (World.withFiles [])).1
    (∀ g ∈ seen, g.Declared) ∧ (∀ g ∈ exposed, g.Declared) ∧
      isHarnessInvocation (argv seen .sort) = true ∧ code (argv seen .sort) = 0 ∧
      isHarnessInvocation (argv exposed .numeric) = false ∧ code (argv exposed .numeric) = 3 := by
  intro seen exposed argv code
  have hlength : once "buffer-len" .number ∈ sortOptions := by decide
  have hquiet : (GivenOption.short 'q').Declared := ⟨⟨"quiet", some 'q'⟩, by decide, rfl⟩
  have hseen : ∀ g ∈ seen, g.Declared := by
    simp only [seen, List.forall_mem_cons, GivenOption.Declared]
    exact ⟨by decide, hquiet, by decide, by decide, nofun⟩
  have hexposed : ∀ g ∈ exposed, g.Declared := by
    simp only [exposed, List.forall_mem_cons, GivenOption.Declared]
    exact ⟨hquiet, by decide, nofun⟩
  have hnone : ∀ g ∈ seen, ¬g.Exposes := by
    simp only [seen, List.forall_mem_cons, GivenOption.Exposes]
    exact ⟨fun h => absurd h.1 (by decide), not_false, not_false, fun h => absurd h.2 (by decide), nofun⟩
  have hsort : ∃ g ∈ seen, g.OfSort := ⟨.joined (once "buffer-len" .number) "x", by simp [seen], hlength⟩
  have hsort' : ∃ g ∈ exposed, g.OfSort := ⟨.apart (once "buffer-len" .number) "7", by simp [exposed], hlength⟩
  obtain ⟨hlook, -, hcode⟩ := harness_exit_behind_options World.system (fun _ => none) (.ofString "refcheck") seen
    hseen .sort (by decide) [] (World.withFiles [])
  obtain ⟨-, hvalue, hcode'⟩ := harness_exit_behind_options World.system (fun _ => none) (.ofString "refcheck") exposed
    hexposed .numeric (by decide) [] (World.withFiles [])
  have hlook : isHarnessInvocation (argv seen .sort) = true := (hlook hnone).1
  have hword : isHarnessInvocation (argv exposed .numeric) = true ↔ "7" ∈ harnessCommands.map CommandName.name :=
    (hvalue [.short 'q'] _ "7" [] rfl (by simp [GivenOption.Exposes]) hlength).1 (by decide)
  have hlook' : isHarnessInvocation (argv exposed .numeric) = false :=
    eq_false_of_ne_true fun h => absurd (hword.mp h) (by decide)
  refine ⟨hseen, hexposed, hlook, (hcode hsort).2.trans (if_pos hlook), hlook', (hcode' hsort').2.trans ?_⟩
  rw [hlook']
  rfl

end Program

end KernelAudit
