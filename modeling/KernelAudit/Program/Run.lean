import KernelAudit.Build.Info
import KernelAudit.CommandLine.Parser
import KernelAudit.Program.System
import KernelAudit.Report.Comparison

/-! The program. Reports end with the exit code of their summary, 3 standing for everything that keeps
    a report from being made or compared. The harness commands end with 1 for a pass and 0 for all else,
    a command line that is not understood included. A program that faults itself, as it does when what it
    has to say is refused, ends with 101. -/

namespace KernelAudit.Program

variable {m : Type → Type} [Monad m]

def runtimeError : UInt8 := 3

def harnessExit (v : Verdict) : UInt8 := UInt8.ofNat v.harnessCode

def summaryExit (r : Report) : UInt8 := UInt8.ofNat r.summary.exitCode

/-- The exit code of a program that faults. -/
def faultCode : UInt8 := 101

/-- Writes a text to one of the standard streams, or faults. -/
def sayOn (stream : String) (write : ExceptT String m Unit) : Faulty m Unit :=
  ExceptT.adapt (fun reason => .text s!"failed printing to {stream}: {reason}") write

def say (sys : System m) (text : String) : Faulty m Unit := sayOn "stdout" (sys.print text)

def complain (sys : System m) (text : String) : Faulty m Unit := sayOn "stderr" (sys.printError text)

def errorText (e : Error) : String := s!"Error: {e.message}\n"

/-- Prints an error and ends with the given exit code. -/
def failWith (sys : System m) (code : UInt8) (e : Error) : Faulty m UInt8 := do
  complain sys (errorText e)
  pure code

/-! ### The harness commands -/

def runNumeric (sys : System m) (globals : Globals) : Faulty m UInt8 :=
  match sys.kernels globals.backend with
  | .error e => failWith sys (harnessExit .fail) e
  | .ok kernels => harnessExit <$> Numeric.verdict kernels.numeric sys.sink

def runSort (sys : System m) (globals : Globals) (config : Sorting.Config) : Faulty m UInt8 :=
  match config.validate, sys.kernels globals.backend with
  | .error e, _ | _, .error e => failWith sys (harnessExit .fail) e
  | .ok _, .ok kernels => do
    let entropy ← (sys.host.entropy : m _)
    return harnessExit (← Sorting.verdict kernels.sort config entropy)

/-! ### Reports -/

def printReport (sys : System m) (env : Environment) (globals : Globals) (r : Report) : Faulty m Unit :=
  say sys (globals.format.render (globals.style env) r ++ "\n")

/-- Saves a report if a place is given. -/
def saveReport (sys : System m) (r : Report) : Option Text.Raw → m (Except Error Unit)
  | none => pure (.ok ())
  | some path => sys.saveBaseline r path

/-- Compares a report with the baseline, if one is given. -/
def compareReport (sys : System m) (r : Report) : Option Text.Raw → Faulty m (Except Error Unit)
  | none => pure (.ok ())
  | some path => do
    match ← (sys.loadBaseline path : m _) with
    | .error problem => return .error (problem.error path.display)
    | .ok baseline =>
      complain sys ((Comparison.ofReports r baseline).text ++ "\n")
      return .ok ()

def runCheck (sys : System m) (env : Environment) (globals : Globals) (options : CheckOptions) :
    Faulty m UInt8 := do
  match ← (options.config globals).runFrom sys.host sys.kernels with
  | .error e =>
    complain sys s!"Error running checks: {e.message}\n"
    return runtimeError
  | .ok report =>
    printReport sys env globals report
    match ← (saveReport sys report options.saveBaseline : m _) with
    | .error e => failWith sys runtimeError e
    | .ok _ =>
      match ← compareReport sys report options.baseline with
      | .error e => failWith sys runtimeError e
      | .ok _ => return summaryExit report

/-- A probe keeps its own deadline, so as a check it has all the time there is. -/
def probeSettings : RunSettings := ⟨false, 18446744073709551615, "external"⟩

def probeReport (host : Host m) (launch : Probe.Launcher m) (request : Probe.Request) : m Report :=
  runChecks host probeSettings [Probe.check host launch request] .all

def runProbe (sys : System m) (env : Environment) (globals : Globals) (request : Probe.Request) :
    Faulty m UInt8 := do
  let report ← (probeReport sys.host sys.launch request : m _)
  printReport sys env globals report
  return summaryExit report

/-! ### Information -/

/-- A check in the list of checks. -/
def listLine (id name : String) : String := "  " ++ Text.padEnd 9 id ++ name

/-- The lines of a category in the list of checks. -/
def categoryList (checks : List (Check m)) (c : Category) : List String :=
  let lines := match c with
    | .probe => [listLine Probe.checkId (Probe.checkName ++ " (refcheck probe)")]
    | c => (checks.filter (·.category = c)).map fun check => listLine check.id check.name
  ["", c.heading ++ ":"] ++ lines

def listText (host : Host m) : String :=
  let checks := Builtin.checks host Reference.kernels .default
  String.join ((["Available checks:"] ++ Category.all.flatMap (categoryList checks)).map (· ++ "\n"))

def helpText : String :=
  "Validate fib/sqr/ring and quickSort kernels against reference behaviour\n\n" ++
  "Usage: refcheck [OPTIONS] [check|numeric|sort|probe|list|version]\n\n" ++
  "Exit codes:\n" ++
  "  numeric, sort   1 = pass, 0 = fail (bad arguments also exit 0)\n" ++
  "  check, probe    0 = pass, 1 = failures, 2 = warnings, 3 = runtime error\n"

def usageText : String := "error: invalid usage\n\nFor more information, try '--help'.\n"

/-! ### The whole program -/

def runCommand (sys : System m) (env : Environment) (i : Invocation) : Faulty m UInt8 :=
  match i.command with
  | .check options => runCheck sys env i.globals options
  | .numeric => runNumeric sys i.globals
  | .sort config => runSort sys i.globals config
  | .probe request => runProbe sys env i.globals request
  | .list => do
    say sys (listText sys.host)
    return 0
  | .version => do
    say sys (BuildInfo.current.text ++ "\n")
    return 0

/-- Ends a command line that is not understood, whether or not the explanation is taken. -/
def endMisunderstood (sys : System m) (argv : List Text.Raw) (e : UsageError) : m UInt8 := do
  if e.isMistake then
    let _ ← (sys.printError usageText).run
    return if CommandLine.isHarnessInvocation argv then harnessExit .fail else runtimeError
  else
    let _ ← (sys.print helpText).run
    return 0

/-- Runs the program on a command line, its own name first, and answers its exit code. -/
def run (sys : System m) (env : Environment) (argv : List Text.Raw) : m UInt8 := do
  match CommandLine.parse env argv.tail with
  | .error e => endMisunderstood sys argv e
  | .ok invocation =>
    match ← (runCommand sys env invocation).run with
    | .ok code => return code
    | .error _ => return faultCode

end KernelAudit.Program
