import KernelAudit.Proofs.Check.Unwinding
import KernelAudit.Proofs.Kernel.Coupling

/-! The built-in checks on two machines. Checks of coupled kernels end alike, up to the times that were
    measured, and leave the machines as alike as they found them. -/

namespace KernelAudit

def CheckResult.untimed : CheckResult → CheckResult
  | .pass message _ => .pass message 0
  | .warn message details _ => .warn message details 0
  | .fail message details _ => .fail message details 0
  | .skip reason => .skip reason

def Entry.untimed (e : Entry) : Entry := { e with result := e.result.map CheckResult.untimed }

def CheckResult.SameUntimed (r r' : CheckResult) : Prop := r.untimed = r'.untimed

/-- The two checks are shown alike and end alike, up to the times. -/
structure Check.Coupled {σ σ' : Type} (S : σ → σ' → Prop) (check : Check (StateM σ)) (check' : Check (StateM σ')) :
    Prop extends Check.ShownAlike check check' where
  execute : KernelAudit.Coupled S (fun e e' => EndAlike CheckResult.SameUntimed e.outcome e'.outcome) check.execute
    check'.execute

namespace Builtin
open CheckResult (SameUntimed)

variable {σ σ' α α' : Type} {S : σ → σ' → Prop} {drawn : Key → Key → Prop}

/-! ### Results -/

section
variable (durationMs durationMs' : UInt64)

theorem untimed_numericResult (outcome : Numeric.Outcome) :
    SameUntimed (numericResult outcome durationMs) (numericResult outcome durationMs') := by
  rw [SameUntimed, numericResult, numericResult]
  cases outcome.mismatch <;> rfl

theorem untimed_sweepResult (kernel : String) (write : α → String) (deviations : List (Numeric.Deviation α)) :
    SameUntimed (sweepResult kernel write deviations durationMs) (sweepResult kernel write deviations durationMs') := by
  rw [SameUntimed, sweepResult, sweepResult]
  cases deviations.isEmpty <;> rfl

theorem untimed_sortResult (config : Sorting.Config) (outcome : Sorting.Outcome) :
    SameUntimed (sortResult config outcome durationMs) (sortResult config outcome durationMs') := by
  rw [SameUntimed, sortResult, sortResult]
  cases outcome.violation <;> rfl

theorem untimed_lossResult (config : Sorting.Config) (loss : Option Sorting.Loss) :
    SameUntimed (lossResult config loss durationMs) (lossResult config loss durationMs') := by
  cases loss <;> rfl

end

/-! ### Bodies -/

variable {host : Host (StateM σ)} {host' : Host (StateM σ')} (hhost : host.Coupled S drawn host')
include hhost

theorem matched_timed {rel : α → α' → Prop} {act : Faulty (StateM σ) α} {act' : Faulty (StateM σ') α'}
    (h : Matched S rel act act') : Matched S (fun p p' => rel p.1 p'.1) (timed host act) (timed host' act') := by
  refine Matched.lift_bind (Coupled.timed hhost h) ?_
  rintro ⟨outcome, durationMs⟩ ⟨outcome', durationMs'⟩ houtcome
  cases houtcome with
  | ok hvalue => exact Matched.of_pure hvalue
  | error fault => exact Matched.of_throw fault

theorem matched_numericValidator {kernel : NumericKernel (StateM σ)} {kernel' : NumericKernel (StateM σ')}
    (h : kernel.Coupled S kernel') :
    Matched S SameUntimed (numericValidator host kernel) (numericValidator host' kernel') := by
  refine Matched.lift_bind (Coupled.timed hhost (Numeric.matched_validateAll h _)) ?_
  rintro ⟨outcome, durationMs⟩ ⟨outcome', durationMs'⟩ houtcome
  cases houtcome with
  | ok hvalue =>
    obtain rfl := hvalue
    exact Matched.of_pure (untimed_numericResult ..)
  | error interruption =>
    cases interruption with
    | fault fault => exact Matched.of_throw fault
    | output reason => exact Matched.of_pure rfl

theorem matched_sweep {kernel : String} {write : α → String} {act : Faulty (StateM σ) (List (Numeric.Deviation α))}
    {act' : Faulty (StateM σ') (List (Numeric.Deviation α))} (h : Matched S Eq act act') :
    Matched S SameUntimed (sweep host kernel write act) (sweep host' kernel write act') := by
  refine (matched_timed hhost h).bind ?_
  rintro ⟨deviations, durationMs⟩ ⟨_, durationMs'⟩ rfl
  exact Matched.of_pure (untimed_sweepResult ..)

section
variable {kernel : SortKernel (StateM σ)} {kernel' : SortKernel (StateM σ')} (h : kernel.Coupled S kernel')
  {config : Sorting.Config} (hdrawn : ∀ e e', drawn e e' → config.generator e = config.generator e')
include h hdrawn

theorem matched_sortValidator :
    Matched S SameUntimed (sortValidator host kernel config) (sortValidator host' kernel' config) := by
  unfold sortValidator
  split
  · exact Matched.of_pure rfl
  · refine Matched.lift_bind hhost.entropy fun entropy entropy' hentropy => ?_
    have hvalidate : Matched S Eq (Sorting.validateSeeded kernel config entropy)
        (Sorting.validateSeeded kernel' config entropy') := by
      rw [Sorting.validateSeeded, Sorting.validateSeeded, hdrawn entropy entropy' hentropy]
      exact (Sorting.matched_runTrials h ..).map fun _ _ => congrArg Prod.fst
    refine (matched_timed hhost hvalidate).bind ?_
    rintro ⟨outcome, durationMs⟩ ⟨_, durationMs'⟩ rfl
    exact Matched.of_pure (untimed_sortResult ..)

theorem matched_elementPreservation :
    Matched S SameUntimed (elementPreservation host kernel config) (elementPreservation host' kernel' config) := by
  unfold elementPreservation
  split
  · exact Matched.of_pure rfl
  · refine Matched.lift_bind hhost.entropy fun entropy entropy' hentropy => ?_
    rw [hdrawn entropy entropy' hentropy]
    refine (matched_timed hhost (Sorting.matched_searchTrials h ..)).bind ?_
    rintro ⟨⟨loss, source⟩, durationMs⟩ ⟨_, durationMs'⟩ rfl
    exact Matched.of_pure (untimed_lossResult ..)

end

/-! ### Checks -/

/-- The leavings of two bodies that end alike have been dropped. -/
def CaughtAlike (ended ended' : Except Fault Execution) : Prop :=
  ∃ outcome outcome' elapsedMs elapsedMs', ended = Execution.caught elapsedMs outcome ∧
    ended' = Execution.caught elapsedMs' outcome' ∧ EndAlike SameUntimed outcome outcome'

theorem coupled_check {id name description : String} {category : Category} {dependencies : List String}
    {body : Faulty (StateM σ) CheckResult} {body' : Faulty (StateM σ') CheckResult}
    (h : Matched S SameUntimed body body') :
    (check host id name category description dependencies body).settled.Coupled S
      (check host' id name category description dependencies body').settled where
  entry_eq := rfl
  dependencies_eq := rfl
  execute := by
    have hcaught : Coupled S CaughtAlike (check host id name category description dependencies body).execute.run
        (check host' id name category description dependencies body').execute.run :=
      (Coupled.timed hhost h).bind fun p p' halike => Coupled.of_pure ⟨_, _, _, _, rfl, rfl, halike⟩
    refine hcaught.bind ?_
    rintro _ _ ⟨outcome, outcome', elapsedMs, elapsedMs', rfl, rfl, halike⟩
    -- What the fault of both has left behind is dropped, or would unwind a run; settled, both fail.
    cases halike with
    | ok hsame => exact Coupled.of_pure (.ok hsame)
    | error fault =>
      cases fault with
      | text message => exact Coupled.of_pure (.error _)
      | blank => exact Coupled.of_pure (.error _)
      | trap raised => exact Coupled.of_pure (.error _)

theorem numericChecks_coupled {kernel : NumericKernel (StateM σ)} {kernel' : NumericKernel (StateM σ')}
    (h : kernel.Coupled S kernel') :
    List.Forall₂ (Check.Coupled S) ((numericChecks host kernel).map Check.settled)
      ((numericChecks host' kernel').map Check.settled) :=
  .cons (coupled_check hhost (matched_numericValidator hhost h))
    (.cons (coupled_check hhost (matched_sweep hhost (Numeric.matched_sweepFib h)))
    (.cons (coupled_check hhost (matched_sweep hhost (Numeric.matched_sweepSingle h.sqr _)))
    (.cons (coupled_check hhost (matched_sweep hhost (Numeric.matched_sweepSingle h.ring _))) .nil)))

theorem sortChecks_coupled {kernel : SortKernel (StateM σ)} {kernel' : SortKernel (StateM σ')}
    (h : kernel.Coupled S kernel') {config : Sorting.Config}
    (hdrawn : ∀ e e', drawn e e' → config.generator e = config.generator e') :
    List.Forall₂ (Check.Coupled S) ((sortChecks host kernel config).map Check.settled)
      ((sortChecks host' kernel' config).map Check.settled) :=
  .cons (coupled_check hhost (matched_sortValidator hhost h hdrawn))
    (.cons (coupled_check hhost (matched_elementPreservation hhost h hdrawn)) .nil)

end Builtin

end KernelAudit
