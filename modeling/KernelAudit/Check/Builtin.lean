import KernelAudit.Check.Run
import KernelAudit.Text.Blank
import KernelAudit.Validator.Numeric
import KernelAudit.Validator.Sort

/-! The six built-in checks: the two validators, a sweep of each numeric kernel, and the search for
    lost elements. Each puts the outcome of its validator into words. -/

namespace KernelAudit.Builtin

variable {m : Type → Type} [Monad m]

/-- A sink that takes everything and keeps nothing. -/
def discard : Numeric.Sink m := ⟨fun _ => pure (), pure ()⟩

/-- What the numeric validator wrote, as it is quoted in a result. -/
def printedLine (o : Numeric.Outcome) : String := Text.trimEnd o.printed

def numericResult (outcome : Numeric.Outcome) (durationMs : UInt64) : CheckResult :=
  match outcome.mismatch with
  | none => .pass s!"printed: {printedLine outcome}" durationMs
  | some c =>
    .fail s!"Mismatch at index {c.index} (printed: {printedLine outcome})" c.describe durationMs

/-- The numeric validator as a check. -/
def numericValidator (host : Host m) (kernel : NumericKernel m) : Faulty m CheckResult := do
  let (outcome, durationMs) ← (host.timed (Numeric.validate kernel discard).run : m _)
  match outcome with
  | .ok outcome => pure (numericResult outcome durationMs)
  | .error (.fault fault) => throw fault
  | .error (.output reason) =>
    pure (.fail "Numeric validator could not write its output"
      (Numeric.Interruption.error reason).message durationMs)

/-- Runs a faulting action between two readings of the clock; a fault passes through. -/
def timed (host : Host m) (act : Faulty m α) : Faulty m (α × UInt64) := do
  let (outcome, durationMs) ← (host.timed act.run : m _)
  match outcome with
  | .ok a => pure (a, durationMs)
  | .error fault => throw fault

/-- The result of a sweep; `write` gives the text of a value. -/
def sweepResult (kernel : String) (write : α → String) (deviations : List (Numeric.Deviation α))
    (durationMs : UInt64) : CheckResult :=
  let total := Numeric.referenceSequence.length
  if deviations.isEmpty then .pass s!"{kernel} matches at all {total} indices" durationMs
  else
    .fail s!"{kernel} differs at {deviations.length} of {total} indices"
      ("; ".intercalate (deviations.map fun d =>
        Numeric.deviationText kernel d.index (write d.actual) (write d.expected))) durationMs

/-- A sweep as a check. -/
def sweep (host : Host m) (kernel : String) (write : α → String)
    (act : Faulty m (List (Numeric.Deviation α))) : Faulty m CheckResult := do
  let (deviations, durationMs) ← timed host act
  pure (sweepResult kernel write deviations durationMs)

def noTrials : CheckResult := .skip "No sort trials configured"

def sortResult (config : Sorting.Config) (outcome : Sorting.Outcome) (durationMs : UInt64) : CheckResult :=
  match outcome.violation with
  | none => .pass s!"{outcome.trialsRun} trials of {config.bufferLen} elements sorted" durationMs
  | some v => .fail s!"Buffer out of order in trial {v.trial + 1}" v.descent.text durationMs

/-- The sort validator as a check. -/
def sortValidator (host : Host m) (kernel : SortKernel m) (config : Sorting.Config) :
    Faulty m CheckResult := do
  if config.trials = 0 then return noTrials
  let entropy ← (host.entropy : m _)
  let (outcome, durationMs) ← timed host (Sorting.validateSeeded kernel config entropy)
  pure (sortResult config outcome durationMs)

def lossResult (config : Sorting.Config) (loss : Option Sorting.Loss) (durationMs : UInt64) : CheckResult :=
  match loss with
  | none => .pass s!"{config.trials} trials kept their elements" durationMs
  | some l => .fail s!"Sorted buffer lost elements in trial {l.trial + 1}" l.text durationMs

/-- The search for lost elements as a check. -/
def elementPreservation (host : Host m) (kernel : SortKernel m) (config : Sorting.Config) :
    Faulty m CheckResult := do
  if config.trials = 0 then return noTrials
  let entropy ← (host.entropy : m _)
  let ((loss, _), durationMs) ← timed host (Sorting.findLoss kernel config (config.generator entropy))
  pure (lossResult config loss durationMs)

/-- A check that measures how long its body takes. -/
def check (host : Host m) (id name : String) (category : Category) (description : String)
    (dependencies : List String) (body : Faulty m CheckResult) : Check (Faulty m) where
  id := id
  name := name
  category := category
  description := description
  dependencies := dependencies
  execute := ExceptT.mk do
    let (outcome, elapsedMs) ← host.timed body.run
    return Execution.caught elapsedMs outcome

def numericChecks (host : Host m) (kernel : NumericKernel m) : List (Check (Faulty m)) :=
  [ check host "NUM-001" "Numeric Sequence Validator" .numeric
      "Compare fib, sqr and ring against reference values, halting at the first mismatch" []
      (numericValidator host kernel),
    check host "NUM-002" "Fibonacci Reference Sequence" .numeric
      "Compare fib(0..10) with 1, 1, 2, 3, 5, 8, 13, 21, 34, 55" []
      (sweep host "fib" (fun v => toString v.toInt) (Numeric.sweepFib kernel)),
    check host "NUM-003" "Square Kernel" .numeric
      "Check sqr(i) == i * i exactly for i in 0..10" []
      (sweep host "sqr" Single.text (Numeric.sweepSqr kernel)),
    check host "NUM-004" "Ring Kernel" .numeric
      "Check ring(i) == (((0 + i)^2 + i)^2 + i)^2 exactly for i in 0..10" []
      (sweep host "ring" Single.text (Numeric.sweepRing kernel)) ]

def sortChecks (host : Host m) (kernel : SortKernel m) (config : Sorting.Config) : List (Check (Faulty m)) :=
  [ check host "SORT-001" "Sort Validator" .sort
      "Sort random buffers with quickSort and check they are non-decreasing" []
      (sortValidator host kernel config),
    check host "SORT-002" "Sort Element Preservation" .sort
      "Check sorted buffers hold exactly the elements that were filled in" ["SORT-001"]
      (elementPreservation host kernel config) ]

/-- The built-in checks of a set of kernels, in the order of their registration. -/
def checks (host : Host m) (kernels : KernelSet m) (config : Sorting.Config) : List (Check (Faulty m)) :=
  numericChecks host kernels.numeric ++ sortChecks host kernels.sort config

end KernelAudit.Builtin
