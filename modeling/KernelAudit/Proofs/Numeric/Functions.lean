import KernelAudit.Check.Builtin
import KernelAudit.Kernel.Reference

/-! The numeric validator and the sweeps on kernels that compute functions. Such a kernel gives one
    comparison at each index, however often it is asked, and these comparisons decide about both: the
    validator ends at the first that failed, and a sweep collects those that failed for its kernel. The
    built-in kernels meet every expectation. -/

namespace KernelAudit

variable {m : Type → Type} [Monad m]

/-- Kernels that keep no state and never fault. -/
def NumericKernel.ofFunctions (fib : Int32 → Int32) (sqr ring : Single → Single) : NumericKernel m where
  fib index := pure (fib index)
  sqr x := pure (sqr x)
  ring x := pure (ring x)

namespace Numeric

section
variable (fib : Int32 → Int32) (sqr ring : Single → Single)

/-- The comparison at an index for which a `fib` value is expected. -/
def comparison (p : Nat × Int32) : Comparison where
  index := p.1
  fib := fib (Int32.ofNat p.1)
  expectedFib := p.2
  sqr := sqr (Single.ofNat p.1)
  expectedSqr := localSqr (Single.ofNat p.1)
  ring := ring (Single.ofNat p.1)
  expectedRing := localRing (Single.ofNat p.1)

/-- The outcome of comparisons that are made one after the other. -/
def outcomeOf : List Comparison → Outcome
  | [] => ⟨[], none⟩
  | c :: rest =>
    if c.failed then ⟨[c.fib], some c⟩ else { outcomeOf rest with values := c.fib :: (outcomeOf rest).values }

/-- The deviations of a function on indices. -/
def fibDeviations : List (Deviation Int32) :=
  (expectations.map fun p => ⟨p.1, fib (Int32.ofNat p.1), p.2⟩).filter fun d => d.actual != d.expected

/-- The deviations of a function on numbers. -/
def singleDeviations (kernel expected : Single → Single) : List (Deviation Single) :=
  (expectations.map fun p => ⟨p.1, kernel (Single.ofNat p.1), expected (Single.ofNat p.1)⟩).filter
    fun d => !d.actual.same d.expected

variable [LawfulMonad m]

theorem write_discard (text : String) : (Builtin.discard : Sink m).write text = pure () := by
  have hput : ∀ cs : List Char, cs.forM (Builtin.discard : Sink m).put = pure () := by
    intro cs
    induction cs with
    | nil => rfl
    | cons c cs ih =>
      rw [List.forM_eq_forM, List.forM_cons, ← List.forM_eq_forM, ih]
      exact pure_bind ..
  rw [Sink.write, hput]
  exact pure_bind ..

theorem adapt_pure {ε ε' α : Type} (f : ε → ε') (a : α) :
    ExceptT.adapt f (pure a : ExceptT ε m α) = pure a :=
  ExceptT.ext (map_pure (Except.mapError f) (.ok a))

theorem call_pure {α : Type} (a : α) : call (pure a : Faulty m α) = pure a := adapt_pure ..

theorem compareAt_ofFunctions (p : Nat × Int32) :
    compareAt (.ofFunctions fib sqr ring : NumericKernel m) p.1 p.2 = pure (comparison fib sqr ring p) := by
  simp only [compareAt, NumericKernel.ofFunctions, pure_bind]
  rfl

theorem validateAll_ofFunctions (expected : List (Nat × Int32)) :
    validateAll (.ofFunctions fib sqr ring : NumericKernel m) Builtin.discard expected =
      pure (outcomeOf (expected.map (comparison fib sqr ring))) := by
  induction expected with
  | nil => rfl
  | cons p rest ih =>
    have hfib : call ((.ofFunctions fib sqr ring : NumericKernel m).fib (Int32.ofNat p.1)) =
        pure (fib (Int32.ofNat p.1)) := call_pure ..
    simp only [validateAll, hfib, pure_bind, write_discard, adapt_pure, compareAt_ofFunctions, call_pure, ih]
    rw [List.map_cons, outcomeOf]
    split <;> rfl

theorem sweepFib_ofFunctions :
    sweepFib (.ofFunctions fib sqr ring : NumericKernel m) = pure (fibDeviations fib) := by
  simp only [sweepFib, NumericKernel.ofFunctions, pure_bind, List.mapM_pure]
  rfl

theorem sweepSingle_pure (kernel expected : Single → Single) :
    sweepSingle (fun x => pure (kernel x) : Single → Faulty m Single) expected =
      pure (singleDeviations kernel expected) := by
  simp only [sweepSingle, pure_bind, List.mapM_pure]
  rfl

end

/-! ### The built-in kernels -/

theorem outcomeOf_reference :
    outcomeOf (expectations.map (comparison Reference.fib Reference.sqr Reference.ring)) = ⟨referenceSequence, none⟩ := by
  decide +kernel

theorem fibDeviations_reference : fibDeviations Reference.fib = [] := by
  decide +kernel

theorem singleDeviations_sqr_reference : singleDeviations Reference.sqr localSqr = [] := by
  decide +kernel

theorem singleDeviations_ring_reference : singleDeviations Reference.ring localRing = [] := by
  decide +kernel

end Numeric

end KernelAudit
