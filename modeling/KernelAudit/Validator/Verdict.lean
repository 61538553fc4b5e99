import KernelAudit.Kernel.Basic

/-! The outcome of one validator run, and the convention in which a harness reports it: exit code 1
    for a pass and 0 for a fail, where any other code counts as a pass too. -/

namespace KernelAudit

inductive Verdict where
  | pass
  | fail
  deriving DecidableEq, Repr

namespace Verdict

def ofPassed (passed : Bool) : Verdict := if passed then .pass else .fail

def passed (v : Verdict) : Bool := v = .pass

/-- The exit code of a harness. -/
def harnessCode : Verdict → Nat
  | .pass => 1
  | .fail => 0

/-- How the exit code of a harness is read. -/
def ofHarnessCode (code : Int32) : Verdict := ofPassed (code ≠ 0)

def name : Verdict → String
  | .pass => "pass"
  | .fail => "fail"

/-- The verdict on a run that has ended with a fault, or a fault again if what was left behind cannot be
    dropped. -/
def ofFault (fault : Fault) : Except Fault Verdict := do
  fault.drop
  return .fail

/-- A validator that faults has failed; a fault must never look like a pass. -/
def guarded [Monad m] (validator : Faulty m Verdict) : Faulty m Verdict := ExceptT.mk do
  match ← validator.run with
  | .ok verdict => return .ok verdict
  | .error fault => return ofFault fault

end Verdict

end KernelAudit
