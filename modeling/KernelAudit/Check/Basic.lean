import KernelAudit.Kernel.Basic

/-! Checks and what they report. A check has a category and a result that says how it went; an entry
    is a check as a report shows it, with the result if there is one. -/

namespace KernelAudit

inductive Category where
  | numeric
  | sort
  | probe
  deriving DecidableEq, Repr, Inhabited

namespace Category

/-- All categories in the order of a report. -/
def all : List Category := [.numeric, .sort, .probe]

def name : Category → String
  | .numeric => "Numeric"
  | .sort => "Sort"
  | .probe => "Probe"

/-- The name in small letters, for suites and classes. -/
def slug : Category → String
  | .numeric => "numeric"
  | .sort => "sort"
  | .probe => "probe"

/-- The heading of the category in a printed report. -/
def heading : Category → String
  | .numeric => "NUMERIC CHECKS"
  | .sort => "SORT CHECKS"
  | .probe => "PROBE CHECKS"

end Category

/-- How a check went. A warning is a pass with something suspicious about it. -/
inductive CheckResult where
  | pass (message : String) (durationMs : UInt64)
  | warn (message details : String) (durationMs : UInt64)
  | fail (message details : String) (durationMs : UInt64)
  | skip (reason : String)
  deriving DecidableEq, Repr

/-- The four ways a check can go. -/
inductive Status where
  | pass
  | warn
  | fail
  | skip
  deriving DecidableEq, Repr

namespace Status

def all : List Status := [.pass, .warn, .fail, .skip]

def name : Status → String
  | .pass => "pass"
  | .warn => "warn"
  | .fail => "fail"
  | .skip => "skip"

end Status

namespace CheckResult

def status : CheckResult → Status
  | .pass .. => .pass
  | .warn .. => .warn
  | .fail .. => .fail
  | .skip .. => .skip

/-- The time a check took, if it ran at all. -/
def durationMs? : CheckResult → Option UInt64
  | .pass _ d | .warn _ _ d | .fail _ _ d => some d
  | .skip _ => none

def isFailure (r : CheckResult) : Bool := r.status = .fail

def text : CheckResult → String
  | .pass message _ => s!"PASS: {message}"
  | .warn message details _ => s!"WARN: {message} ({details})"
  | .fail message details _ => s!"FAIL: {message} ({details})"
  | .skip reason => s!"SKIP: {reason}"

end CheckResult

/-- A check in a report. -/
structure Entry where
  id : String
  name : String
  category : Category
  description : String
  result : Option CheckResult
  deriving DecidableEq, Repr

namespace Entry

/-- The status of an entry that was executed. -/
def status? (e : Entry) : Option Status := e.result.map CheckResult.status

/-- Failures and warnings are what a reader has to look at. -/
def isIssue (e : Entry) : Bool := e.status? = some .fail || e.status? = some .warn

/-- The time the entry took; none counts as zero. -/
def durationMs (e : Entry) : Nat := ((e.result.bind CheckResult.durationMs?).getD 0).toNat

end Entry

/-- One execution of a check: what it answered, or the text of the fault of a kernel, if there is one, and how
    long it took. -/
structure Execution where
  outcome : Except (Option String) CheckResult
  elapsedMs : UInt64

/-- The execution of a body that has ended. A fault is caught, and what it has left behind is dropped when its
    text has been taken down; what that raises is caught by nobody. -/
def Execution.caught (elapsedMs : UInt64) : Except Fault CheckResult → Except Fault Execution
  | .ok result => .ok ⟨.ok result, elapsedMs⟩
  | .error fault => do
    fault.drop
    return ⟨.error fault.text?, elapsedMs⟩

/-- A check that can be executed. Its dependencies are the ids of the checks that go before it. -/
structure Check (m : Type → Type) where
  id : String
  name : String
  category : Category
  description : String
  dependencies : List String
  execute : m Execution

/-- The check as an entry with the given result. -/
def Check.entry (check : Check m) (result : CheckResult) : Entry :=
  ⟨check.id, check.name, check.category, check.description, some result⟩

end KernelAudit
