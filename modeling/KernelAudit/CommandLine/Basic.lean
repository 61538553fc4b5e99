import KernelAudit.Check.Config
import KernelAudit.Probe.Basic
import KernelAudit.Report.Format

/-! What a command line asks for: one of six commands, with the settings that they share. -/

namespace KernelAudit

/-- The settings that all commands share. -/
structure Globals where
  format : OutputFormat
  quiet : Bool
  verbose : Bool
  noColor : Bool
  backend : Backend
  deriving DecidableEq, Repr

/-- The value of an environment variable, if it is set. -/
abbrev Environment := String → Option Text.Raw

/-- Which categories a check covers. -/
inductive CategoryFilter where
  | all
  | numeric
  | sort
  deriving DecidableEq, Repr, Inhabited

namespace CategoryFilter

def every : List CategoryFilter := [.all, .numeric, .sort]

def name : CategoryFilter → String
  | .all => "all"
  | .numeric => "numeric"
  | .sort => "sort"

/-- The categories, unless the filter lets all pass. -/
def categories? : CategoryFilter → Option (List Category)
  | .all => none
  | .numeric => some [.numeric]
  | .sort => some [.sort]

end CategoryFilter

/-- What is asked of a check run. -/
structure CheckOptions where
  category : CategoryFilter
  skip : List String
  only : List String
  failFast : Bool
  timeoutMs : UInt64
  sort : Sorting.Config
  baseline : Option Text.Raw
  saveBaseline : Option Text.Raw
  deriving DecidableEq, Repr

namespace CheckOptions

def default : CheckOptions := ⟨.all, [], [], false, RunConfig.default.timeoutMs, .default, none, none⟩

/-- The run that the options describe. -/
def config (o : CheckOptions) (globals : Globals) : RunConfig where
  categories := o.category.categories?
  skip := o.skip
  only := o.only
  failFast := o.failFast
  timeoutMs := o.timeoutMs
  backend := globals.backend
  sort := o.sort

end CheckOptions

inductive Command where
  | check (options : CheckOptions)
  | numeric
  | sort (config : Sorting.Config)
  | probe (request : Probe.Request)
  | list
  | version
  deriving DecidableEq, Repr

/-- A command line that has been understood. Without a command it asks for a check. -/
structure Invocation where
  globals : Globals
  command? : Option Command
  deriving DecidableEq, Repr

def Invocation.command (i : Invocation) : Command := i.command?.getD (.check .default)

/-- The variable that turns colours off when it is set to anything. -/
def noColorVariable : String := "NO_COLOR"

def Globals.useColor (g : Globals) (env : Environment) : Bool :=
  !g.noColor && ((env noColorVariable).map Text.Raw.isEmpty).getD true

def Globals.style (g : Globals) (env : Environment) : TextStyle := ⟨g.useColor env, g.verbose, g.quiet⟩

/-- Why a command line is not understood. Asking for help is the one that is no mistake. -/
inductive UsageError where
  | help
  | unknownArgument
  | invalidSubcommand
  | invalidValue
  | valueValidation
  | argumentConflict
  | tooManyValues
  | missingArgument
  | invalidEncoding
  deriving DecidableEq, Repr

def UsageError.isMistake (e : UsageError) : Bool := e ≠ .help

end KernelAudit
