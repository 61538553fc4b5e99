import KernelAudit.Proofs.Kernel.Ranges
import KernelAudit.Proofs.Numeric.Course
import KernelAudit.Proofs.Sorting.Course

/-! Faults of kernels in the validators. Each validator ends with a fault exactly if a kernel did, as its last use
    of one, and with the same fault. The kernels that never leave a trap behind (`Droppable`) are those that look
    the same with notes about traps as with no notes at all, so no validator of theirs ends with a trap either. -/

namespace KernelAudit

section
variable {m : Type → Type} [Monad m] {τ : Type}

/-- The kernels of a set, with notes about all their uses. -/
def KernelSet.noted (kernels : KernelSet m) (notes : KernelUse → List τ) : KernelSet (StateT (List τ) m) where
  numeric := kernels.numeric.noted fun event => event.uses.flatMap notes
  sort := kernels.sort.noted fun use => use.uses.flatMap notes

/-- The kernels of a set, all with one record. -/
def KernelSet.recorded (kernels : KernelSet m) : KernelSet (StateT (List KernelUse) m) :=
  kernels.noted fun use => [use]

/-- What becomes of the output is no use of a kernel. -/
theorem Numeric.Sink.noted_uses (sink : Numeric.Sink m) (notes : KernelUse → List τ) :
    sink.noted (fun event => event.uses.flatMap notes) = sink.logged := by
  have haccepted : ∀ c outcome, (Event.ofWrite (.accepted c) outcome).uses.flatMap notes = [] := by
    intro c outcome
    cases outcome <;> rfl
  have hflushed : ∀ outcome, (Event.ofWrite .flushed outcome).uses.flatMap notes = [] := by
    intro outcome
    cases outcome <;> rfl
  simp only [logged, noted, haccepted, hflushed]

theorem Builtin.logged_discard [LawfulMonad m] :
    (discard : Numeric.Sink m).logged = (discard : Numeric.Sink (StateT (List τ) m)) := by
  have hnothing : noted (fun _ => ([] : List τ)) (pure (.ok ()) : m (Except String Unit)) = pure (.ok ()) :=
    noted_nothing rfl
  exact congrArg (fun act => (⟨fun _ => ExceptT.mk act, ExceptT.mk act⟩ : Numeric.Sink (StateT (List τ) m))) hnothing

end

theorem faultIn_map {ε α β : Type} {fault? : ε → Option Fault} (f : α → β) (outcome : Except ε α) :
    faultIn fault? (outcome.map f) = faultIn fault? outcome := by
  cases outcome <;> rfl

variable {σ τ : Type} (notes : KernelUse → List τ)

/-! ### Validators -/

namespace Numeric
variable (kernel : NumericKernel (StateM σ))

theorem follows_validate (sink : Sink (StateM σ)) :
    Follows notes Interruption.fault? (validate (kernel.noted fun event => event.uses.flatMap notes) sink.logged)
      (validate kernel sink) := by
  rw [← Sink.noted_uses sink notes]
  exact (notes_validateAll _ kernel sink expectations).through fun _ _ hcourse => hcourse.accounts

theorem follows_sweepFib :
    Follows notes some (sweepFib (kernel.noted fun event => event.uses.flatMap notes)) (sweepFib kernel) := by
  have hnotes := notes_sweep (fun event => event.uses.flatMap notes) (fun p => .fib (.ofNat p.1)) Prod.snd
    (fun p => .fib (.ofNat p.1)) (fun p => kernel.fib (.ofNat p.1)) (fun d => d.actual != d.expected)
  refine Notes.through hnotes ?_
  rintro _ events ⟨result, hswept, rfl⟩
  rw [faultIn_map]
  exact hswept.accounts

theorem follows_sweepSingle (call : Single → KernelCall) (answer : Single → Single → Answer)
    (kernel : Single → Faulty (StateM σ) Single) (expected : Single → Single) :
    Follows notes some
      (sweepSingle (fun x => notedCall (fun event => event.uses.flatMap notes) (call x) (answer x) (kernel x)) expected)
      (sweepSingle kernel expected) := by
  have hnotes := notes_sweep (fun event => event.uses.flatMap notes) (fun p => answer (.ofNat p.1))
    (fun p => expected (.ofNat p.1)) (fun p => call (.ofNat p.1)) (fun p => kernel (.ofNat p.1))
    (fun d => !d.actual.same d.expected)
  refine Notes.through hnotes ?_
  rintro _ events ⟨result, hswept, rfl⟩
  rw [faultIn_map]
  exact hswept.accounts

end Numeric

namespace Sorting
variable {ρ : Type} [Source ρ] (kernel : SortKernel (StateM σ)) (config : Config) (source : ρ)

theorem follows_validate :
    Follows notes some (validate (kernel.noted fun use => use.uses.flatMap notes) config source)
      (validate kernel config source) := by
  refine Notes.through (notes_validate _ kernel config source) ?_
  rintro _ uses ⟨result, hcourse, rfl⟩
  rw [faultIn_map]
  exact hcourse.accounts

theorem follows_validateSeeded (entropy : Key) :
    Follows notes some (validateSeeded (kernel.noted fun use => use.uses.flatMap notes) config entropy)
      (validateSeeded kernel config entropy) :=
  (follows_validate ..).map Prod.fst

theorem follows_findLoss :
    Follows notes some (findLoss (kernel.noted fun use => use.uses.flatMap notes) config source)
      (findLoss kernel config source) := by
  refine Notes.through (notes_findLoss _ kernel config source) ?_
  rintro _ uses ⟨result, hcourse, rfl⟩
  rw [faultIn_map]
  exact hcourse.accounts

end Sorting

/-! ### Kernels that leave no traps behind -/

/-- Where the computation ends with a fault, what the fault has left behind can be dropped. -/
def NeverTraps (act : Faulty (StateM σ) α) : Prop := ∀ s raised, (act.run.run s).1 ≠ .error (.trap raised)

structure NumericKernel.Droppable (kernel : NumericKernel (StateM σ)) : Prop where
  fib : ∀ index, NeverTraps (kernel.fib index)
  sqr : ∀ x, NeverTraps (kernel.sqr x)
  ring : ∀ x, NeverTraps (kernel.ring x)

structure SortKernel.Droppable (kernel : SortKernel (StateM σ)) : Prop where
  sort : ∀ low high buffer s raised, (((kernel.sort low high).run.run buffer).run s).1.1 ≠ .error (.trap raised)

/-- Whatever the kernels leave behind when they fault can be dropped without another fault. -/
structure KernelSet.Droppable (kernels : KernelSet (StateM σ)) : Prop where
  numeric : kernels.numeric.Droppable
  sort : kernels.sort.Droppable

theorem Reference.droppable : (kernels : KernelSet (StateM σ)).Droppable where
  numeric := ⟨fun _ _ _ => nofun, fun _ _ _ => nofun, fun _ _ _ => nofun⟩
  sort := by
    refine ⟨fun low high buffer s raised => ?_⟩
    rw [run_sort]
    cases quickSort buffer low.toInt high.toInt <;> exact nofun

/-- Notes about the uses that leave a trap behind, and about no others. -/
def trapNotes (use : KernelUse) : List KernelUse :=
  match use.fault? with
  | some (.trap _) => [use]
  | _ => []

theorem trapNotes_uses {outcome : Except Fault α} (h : ∀ raised, outcome ≠ .error (.trap raised)) (call : KernelCall)
    (answer : α → Answer) : (Numeric.Event.ofCall call answer outcome).uses.flatMap trapNotes = [] := by
  rcases outcome with (message | _ | raised) | a
  · rfl
  · rfl
  · exact absurd rfl (h raised)
  · rfl

theorem noted_congr {notes notes' : α → List τ} {act : StateM σ α} (h : ∀ s, notes (act.run s).1 = notes' (act.run s).1) :
    noted notes act = noted notes' act := by
  refine StateT.ext fun log => StateT.ext fun s => ?_
  have hrun : ∀ notes : α → List τ, ((noted notes act).run log).run s =
      (((act.run s).1, log ++ notes (act.run s).1), (act.run s).2) := fun _ => rfl
  rw [hrun, hrun, h]

/-- Notes about nothing. -/
abbrev noNotes (_ : KernelUse) : List KernelUse := []

theorem flatMap_noNotes (uses : List KernelUse) : uses.flatMap noNotes = [] :=
  List.flatMap_eq_nil_iff.mpr fun _ _ => rfl

theorem notedCall_of_neverTraps {act : Faulty (StateM σ) α} (h : NeverTraps act) (call : KernelCall) (answer : α → Answer) :
    notedCall (fun event => event.uses.flatMap trapNotes) call answer act =
      notedCall (fun event => event.uses.flatMap noNotes) call answer act := by
  exact congrArg ExceptT.mk (noted_congr fun s => (trapNotes_uses (h s) ..).trans (flatMap_noNotes _).symm)

theorem NumericKernel.Droppable.noted_eq {kernel : NumericKernel (StateM σ)} (h : kernel.Droppable) :
    kernel.noted (fun event => event.uses.flatMap trapNotes) = kernel.noted fun event => event.uses.flatMap noNotes := by
  simp only [NumericKernel.noted, notedCall_of_neverTraps, h.fib, h.sqr, h.ring]

theorem SortKernel.Droppable.noted_eq {kernel : SortKernel (StateM σ)} (h : kernel.Droppable) :
    kernel.noted (fun use => use.uses.flatMap trapNotes) = kernel.noted fun use => use.uses.flatMap noNotes := by
  refine congrArg SortKernel.mk (funext fun low => funext fun high => congrArg ExceptT.mk (funext fun buffer => ?_))
  have huses : ∀ r : Except Fault Unit × Buffer, (∀ raised, r.1 ≠ .error (.trap raised)) →
      (SortUse.mk ⟨buffer, low, high⟩ (r.1.map fun _ => r.2)).uses.flatMap trapNotes = [] := by
    rintro ⟨(message | _ | raised) | _, after⟩ hr
    · rfl
    · rfl
    · exact absurd rfl (hr raised)
    · rfl
  exact noted_congr fun s => (huses _ (h.sort low high buffer s)).trans (flatMap_noNotes _).symm

theorem KernelSet.Droppable.noted_eq {kernels : KernelSet (StateM σ)} (h : kernels.Droppable) :
    kernels.noted trapNotes = kernels.noted noNotes := by
  rw [noted, noted, h.numeric.noted_eq, h.sort.noted_eq]

theorem Mirrors.ne_trap {p : α → Option Fault} {x : StateT (List KernelUse) (StateM σ) α} {y : StateM σ α}
    (h : Mirrors trapNotes p x y) (hsilent : Mirrors noNotes p x y) (s : σ) (raised : Fault) :
    p (y.run s).1 ≠ some (.trap raised) := by
  obtain ⟨uses, haccounts, hunwritten⟩ := Notes.exists_unwritten h hsilent s
  intro htrap
  obtain ⟨use, huse, hfault⟩ := haccounts.fault_iff.mpr htrap
  have hnote := hunwritten use huse
  rw [trapNotes, hfault] at hnote
  cases hnote

/-- No run of the numeric validator ends with a trap, whatever the sink does. -/
theorem Numeric.validate_ne_trap {kernel : NumericKernel (StateM σ)} (h : kernel.Droppable) (sink : Sink (StateM σ))
    (s : σ) (raised : Fault) :
    faultIn Interruption.fault? ((validate kernel sink).run.run s).1 ≠ some (.trap raised) := by
  have htraps := follows_validate trapNotes kernel sink
  rw [h.noted_eq] at htraps
  exact htraps.ne_trap (follows_validate noNotes kernel sink) s raised

theorem Sorting.validateSeeded_ne_trap {kernel : SortKernel (StateM σ)} (h : kernel.Droppable) (config : Config)
    (entropy : Key) (s : σ) (raised : Fault) :
    faultIn some ((validateSeeded kernel config entropy).run.run s).1 ≠ some (.trap raised) := by
  have htraps := follows_validateSeeded trapNotes kernel config entropy
  rw [h.noted_eq] at htraps
  exact htraps.ne_trap (follows_validateSeeded noNotes kernel config entropy) s raised

end KernelAudit
