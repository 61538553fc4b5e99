import KernelAudit.Check.Order
import KernelAudit.Error
import KernelAudit.Random.Generator
import KernelAudit.Report.Basic

/-! Running checks. A selection names the ids to run; the run goes through them in dependency order,
    looks each one up among the registered checks and executes the first check that has it. Ids that
    nothing is registered under are passed over. A fault becomes a failure of its check, and so does
    an execution that took longer than allowed. -/

namespace KernelAudit

/-- What the machine knows: its name, the date, a clock that counts milliseconds, and randomness. -/
structure Host (m : Type → Type) where
  hostname : m (Option String)
  timestamp : m UInt64
  clock : m UInt64
  entropy : m Key

/-- The host as computations find it that may fault. -/
def Host.faulty [Monad m] (host : Host m) : Host (Faulty m) where
  hostname := liftM host.hostname
  timestamp := liftM host.timestamp
  clock := liftM host.clock
  entropy := liftM host.entropy

/-- Runs an action between two readings of the clock. -/
def Host.timed [Monad m] (host : Host m) (act : m α) : m (α × UInt64) := do
  let start ← host.clock
  let a ← act
  let stop ← host.clock
  pure (a, stop - start)

structure RunSettings where
  /-- Whether the first failure ends the run. -/
  failFast : Bool
  /-- The longest time that a check may take. -/
  timeoutMs : UInt64
  /-- The label of the kernels in the report. -/
  backend : String

/-- Which of the registered checks to run. -/
inductive Selection where
  | all
  | categories (chosen : List Category)
  | only (ids : List String)
  | excluding (ids : List String)
  deriving DecidableEq, Repr

/-- What an execution amounts to. A fault is a failure however long it took. -/
def Execution.result (e : Execution) (timeoutMs : UInt64) (id : String) : CheckResult :=
  match e.outcome with
  | .ok result =>
    if e.elapsedMs > timeoutMs then
      .fail s!"Check timed out after {e.elapsedMs}ms"
        (Error.timeout s!"check {id}" timeoutMs).message e.elapsedMs
    else result
  | .error text? =>
    .fail "Kernel panicked during execution" (text?.getD "An unexpected error occurred") e.elapsedMs

namespace Check

variable {m : Type → Type}

/-- The first check registered under an id. -/
def find? (checks : List (Check m)) (id : String) : Option (Check m) := checks.find? (·.id = id)

/-- The dependencies of the first check registered under an id. -/
def dependenciesOf (checks : List (Check m)) (id : String) : List String :=
  ((find? checks id).map Check.dependencies).getD []

/-- The selected ids in the order in which they run. -/
def order (checks : List (Check m)) (ids : List String) : List String :=
  dependencyOrder (dependenciesOf checks) ids

/-- The checks that a selection of ids executes, in order. -/
def plan (checks : List (Check m)) (ids : List String) : List (Check m) :=
  (order checks ids).filterMap (find? checks)

/-- Executes one check. -/
def run [Monad m] (settings : RunSettings) (check : Check m) : m Entry := do
  let execution ← check.execute
  pure (check.entry (execution.result settings.timeoutMs check.id))

/-- Executes checks one after another, up to the first failure if the settings say so. -/
def runAll [Monad m] (settings : RunSettings) : List (Check m) → m (List Entry)
  | [] => pure []
  | check :: rest => do
    let entry ← check.run settings
    if settings.failFast && entry.status? = some .fail then pure [entry]
    else return entry :: (← runAll settings rest)

end Check

/-- The ids that a selection names among the registered checks. -/
def Selection.ids (checks : List (Check m)) : Selection → List String
  | .all => checks.map Check.id
  | .categories chosen => (checks.filter (·.category ∈ chosen)).map Check.id
  | .only ids => ids
  | .excluding ids => (checks.filter (·.id ∉ ids)).map Check.id

/-- Runs a selection of the registered checks and reports on it. -/
def runChecks [Monad m] (host : Host m) (settings : RunSettings) (checks : List (Check m))
    (selection : Selection) : m Report := do
  let (entries, totalDurationMs) ←
    host.timed (Check.runAll settings (Check.plan checks (selection.ids checks)))
  let hostname := (← host.hostname).getD "unknown"
  pure { timestamp := ← host.timestamp, hostname, backend := settings.backend, entries, totalDurationMs }

end KernelAudit
