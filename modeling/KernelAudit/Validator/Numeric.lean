import KernelAudit.Decimal.Shortest
import KernelAudit.Error
import KernelAudit.Validator.Verdict

/-! The numeric validator and the three sweeps. Both compare the kernels with reference values at the
    indices 0 to 9. The validator writes each `fib` value as it goes, asks for it again to compare it,
    and halts at the first index where any of the three comparisons fails; a sweep looks at one kernel
    and reports every index. Numbers are compared by value. -/

namespace KernelAudit.Numeric

/-- The first ten Fibonacci numbers. -/
def referenceSequence : List Int32 := [1, 1, 2, 3, 5, 8, 13, 21, 34, 55]

/-- The indices with the `fib` value that is expected at each. -/
def expectations : List (Nat × Int32) := referenceSequence.zipIdx.map Prod.swap

def localSqr (x : Single) : Single := x * x

/-- `acc = (acc + x)²`, three times from zero. -/
def localRing (x : Single) : Single := Nat.repeat (fun acc => localSqr (acc + x)) 3 .zero

/-- The values of all three kernels at one index, each with the value that was expected. -/
structure Comparison where
  index : Nat
  fib : Int32
  expectedFib : Int32
  sqr : Single
  expectedSqr : Single
  ring : Single
  expectedRing : Single
  deriving DecidableEq, Repr

/-- A kernel value with the value that was expected, written as it is reported. -/
def deviationText (kernel : String) (index : Nat) (actual expected : String) : String :=
  s!"{kernel}({index}) = {actual}, expected {expected}"

namespace Comparison

def fibMismatch (c : Comparison) : Bool := c.fib != c.expectedFib
def sqrMismatch (c : Comparison) : Bool := !c.sqr.same c.expectedSqr
def ringMismatch (c : Comparison) : Bool := !c.ring.same c.expectedRing

def failed (c : Comparison) : Bool := c.fibMismatch || c.sqrMismatch || c.ringMismatch

/-- One part for each comparison that failed. -/
def parts (c : Comparison) : List String :=
  (if c.fibMismatch then [deviationText "fib" c.index (toString c.fib.toInt) (toString c.expectedFib.toInt)] else []) ++
  (if c.sqrMismatch then [deviationText "sqr" c.index c.sqr.text c.expectedSqr.text] else []) ++
  (if c.ringMismatch then [deviationText "ring" c.index c.ring.text c.expectedRing.text] else [])

def describe (c : Comparison) : String := "; ".intercalate c.parts

end Comparison

/-- `values` are the `fib` values in the order they were produced, `mismatch` the comparison at the
    index that ended the run. -/
structure Outcome where
  values : List Int32
  mismatch : Option Comparison
  deriving DecidableEq, Repr

/-- How one `fib` value is written. -/
def written (value : Int32) : String := toString value.toInt ++ " "

namespace Outcome

def verdict (o : Outcome) : Verdict := .ofPassed o.mismatch.isNone

/-- Everything that the run wrote. -/
def printed (o : Outcome) : String := String.join (o.values.map written)

end Outcome

/-- Where the validator writes: single characters are accepted or refused, and what was accepted may
    fail to be flushed. A refusal says why. -/
structure Sink (m : Type → Type) where
  put : Char → ExceptT String m Unit
  flush : ExceptT String m Unit

/-- Why a run of the validator did not come to an end. -/
inductive Interruption where
  | fault (fault : Fault)
  | output (reason : String)
  deriving DecidableEq, Repr

def Interruption.error (reason : String) : Error := .io "validate_numeric" reason

section
variable {m : Type → Type} [Monad m]

/-- Writes a text character by character and flushes it; the first refusal ends the attempt. -/
def Sink.write (sink : Sink m) (text : String) : ExceptT String m Unit := do
  text.toList.forM sink.put
  sink.flush

/-- A kernel call inside a run. -/
def call (act : Faulty m α) : ExceptT Interruption m α := ExceptT.adapt .fault act

/-- The three kernels at one index, in the order `fib`, `sqr`, `ring`; none is left out. -/
def compareAt (kernel : NumericKernel m) (index : Nat) (expectedFib : Int32) : Faulty m Comparison := do
  let x := Single.ofNat index
  let fib ← kernel.fib (Int32.ofNat index)
  let sqr ← kernel.sqr x
  let ring ← kernel.ring x
  pure { index, fib, expectedFib, sqr, expectedSqr := localSqr x, ring, expectedRing := localRing x }

/-- Validates the given indices in turn, up to the first failing one. -/
def validateAll (kernel : NumericKernel m) (sink : Sink m) :
    List (Nat × Int32) → ExceptT Interruption m Outcome
  | [] => pure ⟨[], none⟩
  | (index, expectedFib) :: rest => do
    let value ← call (kernel.fib (Int32.ofNat index))
    ExceptT.adapt .output (sink.write (written value))
    let comparison ← call (compareAt kernel index expectedFib)
    if comparison.failed then
      pure ⟨[value], some comparison⟩
    else
      let outcome ← validateAll kernel sink rest
      pure { outcome with values := value :: outcome.values }

/-- One run of the numeric validator. -/
def validate (kernel : NumericKernel m) (sink : Sink m) : ExceptT Interruption m Outcome :=
  validateAll kernel sink expectations

/-- The verdict of one run; a run that was interrupted has failed. -/
def verdict (kernel : NumericKernel m) (sink : Sink m) : Faulty m Verdict := Verdict.guarded <| ExceptT.mk do
  match ← (validate kernel sink).run with
  | .ok outcome => return .ok outcome.verdict
  | .error (.fault fault) => return .error fault
  | .error (.output _) => return .ok .fail

/-- A kernel value that differs from the expected one. -/
structure Deviation (α : Type) where
  index : Nat
  actual : α
  expected : α
  deriving DecidableEq, Repr

def sweepFib (kernel : NumericKernel m) : Faulty m (List (Deviation Int32)) := do
  let all ← expectations.mapM fun (index, expected) =>
    return { index, actual := ← kernel.fib (Int32.ofNat index), expected : Deviation Int32 }
  pure (all.filter fun d => d.actual != d.expected)

/-- Every index where a kernel on numbers differs from `expected`. -/
def sweepSingle (kernel : Single → Faulty m Single) (expected : Single → Single) :
    Faulty m (List (Deviation Single)) := do
  let all ← expectations.mapM fun (index, _) =>
    let x := Single.ofNat index
    return { index, actual := ← kernel x, expected := expected x : Deviation Single }
  pure (all.filter fun d => !d.actual.same d.expected)

def sweepSqr (kernel : NumericKernel m) : Faulty m (List (Deviation Single)) :=
  sweepSingle kernel.sqr localSqr

def sweepRing (kernel : NumericKernel m) : Faulty m (List (Deviation Single)) :=
  sweepSingle kernel.ring localRing

end

end KernelAudit.Numeric
