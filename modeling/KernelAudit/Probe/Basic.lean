import KernelAudit.Check.Run
import KernelAudit.Text.Blank
import KernelAudit.Text.Raw
import KernelAudit.Validator.Verdict

/-! Probes: runs of an external validator, which reports through its exit code. A probe has a deadline;
    a validator that overruns it is killed, and what it has printed until then is kept. -/

namespace KernelAudit.Probe

open Text (Raw)

/-- What to run and for how long. -/
structure Request where
  executable : Raw
  args : List String
  timeoutMs : UInt64
  deriving DecidableEq, Repr

/-- The deadline if none is given. -/
def defaultTimeoutMs : UInt64 := 1000

/-- The command line as messages show it. -/
def Request.display (r : Request) : String := " ".intercalate (r.executable.display :: r.args)

/-- How a run ended. There is no exit code after a signal or after the deadline. -/
structure Outcome where
  exitCode : Option Int32
  timedOut : Bool
  stdout : String
  stderr : String
  durationMs : UInt64
  deriving DecidableEq, Repr

/-- A run that ended by itself is judged by its exit code; any other has failed. -/
def verdict (exitCode : Option Int32) (timedOut : Bool) : Verdict :=
  match exitCode with
  | some code => if timedOut then .fail else .ofHarnessCode code
  | none => .fail

def Outcome.verdict (o : Outcome) : Verdict := Probe.verdict o.exitCode o.timedOut

/-- What runs validators. One that cannot be started is answered by the reason. -/
abbrev Launcher (m : Type → Type) := Request → m (Except String Outcome)

def startError (r : Request) (reason : String) : Error := .command r.executable.display reason

/-- Runs a validator. -/
def run [Monad m] (launch : Launcher m) (r : Request) : m (Except Error Outcome) := do
  return (← launch r).mapError (startError r)

/-- What a run amounts to. Only the exit code of a pass is free of suspicion, for a validator that
    crashes exits with a code of its own. -/
def Outcome.result (o : Outcome) (r : Request) : CheckResult :=
  let printed := "printed: " ++ Text.trimEnd o.stdout
  if o.timedOut then
    .fail s!"Validator killed after {r.timeoutMs}ms"
      (Error.timeout s!"{r.display} ({printed})" r.timeoutMs).message o.durationMs
  else
    match o.exitCode with
    | none => .fail "Validator terminated by a signal" printed o.durationMs
    | some code =>
      if code = 0 then .fail "Validator exited with 0" printed o.durationMs
      else if code = Int32.ofNat Verdict.pass.harnessCode then
        .pass s!"exited with 1 ({printed})" o.durationMs
      else .warn s!"Validator exited with {code.toInt}, expected 1" printed o.durationMs

/-- The result of a probe. -/
def resultOf (r : Request) : Except Error Outcome → CheckResult
  | .ok outcome => outcome.result r
  | .error e => .fail "Could not start validator" e.message 0

def checkId : String := "PRB-001"
def checkName : String := "External Validator"

/-- A probe as a check. -/
def check [Monad m] (host : Host m) (launch : Launcher m) (r : Request) : Check m where
  id := checkId
  name := checkName
  category := .probe
  description := s!"Run `{r.display}` and treat a nonzero exit as a pass"
  dependencies := []
  execute := do
    let (result, elapsedMs) ← host.timed do return resultOf r (← run launch r)
    pure ⟨.ok result, elapsedMs⟩

end KernelAudit.Probe
