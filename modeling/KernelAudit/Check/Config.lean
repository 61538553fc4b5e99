import KernelAudit.Check.Builtin
import KernelAudit.Kernel.Reference

/-! A run of the built-in checks as it is asked for: which of them, against which kernels, and with
    which limits. -/

namespace KernelAudit

structure RunConfig where
  categories : Option (List Category)
  skip : List String
  only : List String
  failFast : Bool
  timeoutMs : UInt64
  backend : Backend
  sort : Sorting.Config
  deriving DecidableEq, Repr

namespace RunConfig

def default : RunConfig := ⟨none, [], [], false, 30000, .reference, .default⟩

def validate (c : RunConfig) : Except Error Unit := c.sort.validate

def settings (c : RunConfig) : RunSettings := ⟨c.failFast, c.timeoutMs, c.backend.name⟩

/-- Ids to run win over ids to skip, and these over categories; an empty list asks for nothing. -/
def selection (c : RunConfig) : Selection :=
  if !c.only.isEmpty then .only c.only
  else if !c.skip.isEmpty then .excluding c.skip
  else match c.categories with
    | some chosen => if chosen.isEmpty then .all else .categories chosen
    | none => .all

variable {m : Type → Type} [Monad m]

/-- Runs the built-in checks against given kernels; the backend is a label only. No kernel is called
    when the settings are refused. -/
def runWith (c : RunConfig) (host : Host m) (kernels : KernelSet m) : Faulty m (Except Error Report) :=
  match c.validate with
  | .error e => pure (.error e)
  | .ok _ => .ok <$> runChecks host.faulty c.settings (Builtin.checks host kernels c.sort) c.selection

/-- Runs the built-in checks against the kernels that `source` has for the configured backend. -/
def runFrom (c : RunConfig) (host : Host m) (source : Backend → Except Error (KernelSet m)) :
    Faulty m (Except Error Report) :=
  match source c.backend with
  | .error e => pure (.error e)
  | .ok kernels => c.runWith host kernels

/-- Runs the built-in checks against the kernels of this build. -/
def run (c : RunConfig) (host : Host m) : Faulty m (Except Error Report) := c.runFrom host Backend.kernels

end RunConfig

end KernelAudit
