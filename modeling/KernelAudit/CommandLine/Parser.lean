import KernelAudit.CommandLine.Level

/-! From arguments to what they ask for. Where an option can stand before a command and behind it, the
    one behind it counts more, and both count more than the environment. -/

namespace KernelAudit.CommandLine

open Text (Raw)

/-! ### Values -/

/-- The value of an option at one level: the one that was given, or else the one of the environment. -/
def Level.value? (l : Level) (name : String) : Option Raw :=
  (l.values.lookup name).or (l.fromEnv.lookup name)

def Level.text? (l : Level) (name : String) : Option String := (l.value? name).bind Raw.text?

def Level.number? (l : Level) (name : String) : Option Nat := (l.text? name).bind readNumber?

/-- All values of an option that can be repeated. -/
def Level.texts (l : Level) (name : String) : List String :=
  l.values.filterMap fun (n, v) => if n = name then v.text? else none

/-- The value of a shared option over several levels, those that count more first. -/
def sharedValue? (levels : List Level) (name : String) : Option String :=
  ((levels.findSome? fun l => l.values.lookup name).or
    (levels.findSome? fun l => l.fromEnv.lookup name)).bind Raw.text?

def formatOf (name : Option String) : OutputFormat :=
  (name.bind fun n => OutputFormat.all.find? (·.name = n)).getD .text

def backendOf (name : Option String) : Backend :=
  (name.bind fun n => [Backend.reference, .linked].find? (·.name = n)).getD .reference

def categoryOf (name : Option String) : CategoryFilter :=
  (name.bind fun n => CategoryFilter.every.find? (·.name = n)).getD .all

/-- The shared settings over several levels. -/
def globalsOf (levels : List Level) : Globals where
  format := formatOf (sharedValue? levels "format")
  quiet := levels.any fun l => l.flags.contains "quiet"
  verbose := levels.any fun l => l.flags.contains "verbose"
  noColor := levels.any fun l => l.flags.contains "no-color"
  backend := backendOf (sharedValue? levels "backend")

def sortConfigOf (l : Level) : Sorting.Config where
  trials := (l.number? "trials").getD Sorting.Config.default.trials
  bufferLen := (l.number? "buffer-len").getD Sorting.Config.default.bufferLen
  seed := (l.number? "seed").map UInt64.ofNat

def checkOptionsOf (l : Level) : CheckOptions where
  category := categoryOf (l.text? "category")
  skip := l.texts "skip"
  only := l.texts "only"
  failFast := l.flags.contains "fail-fast"
  timeoutMs := ((l.number? "timeout").map UInt64.ofNat).getD CheckOptions.default.timeoutMs
  sort := sortConfigOf l
  baseline := l.value? "baseline"
  saveBaseline := l.value? "save-baseline"

def requestOf (l : Level) : Probe.Request where
  executable := l.program.getD (.ofString "")
  args := l.programArgs
  timeoutMs := ((l.number? "timeout").map UInt64.ofNat).getD Probe.defaultTimeoutMs

/-- The command of a name with the arguments of its level. -/
def commandOf (l : Level) : CommandName → Command
  | .check => .check (checkOptionsOf l)
  | .numeric => .numeric
  | .sort => .sort (sortConfigOf l)
  | .probe => .probe (requestOf l)
  | .list => .list
  | .version => .version

/-! ### Command lines -/

/-- What comes of asking for help on some words: only a command has help, and none has commands of its
    own. -/
def helpOn : List Raw → UsageError
  | [] => .help
  | [w] => if topGrammar.commands.any w.is then .help else .invalidSubcommand
  | _ :: _ :: _ => .invalidSubcommand

/-- What a command line asks for; the name of the program is not among its arguments. -/
def parse (env : Environment) (args : List Raw) : Except UsageError Invocation := do
  match ← Level.start.scan topGrammar args with
  | (top, none) =>
    let top ← top.finish topGrammar env
    return ⟨globalsOf [top], none⟩
  | (top, some (word, rest)) =>
    if word = helpWord then throw (helpOn rest)
    match CommandName.all.find? (·.name = word) with
    | none => throw .invalidSubcommand
    | some name =>
      let (sub, _) ← Level.start.scan name.grammar rest
      let sub ← sub.finish name.grammar env
      let top ← top.finish topGrammar env
      return ⟨globalsOf [sub, top], some (commandOf sub name)⟩

/-! ### Harness commands -/

/-- The commands whose exit code is a verdict. -/
def harnessCommands : List CommandName := [.numeric, .sort]

/-- Whether the first word that is neither an option nor a value of a shared option is a harness
    command. It is asked of command lines that are not understood, whose exit code must not read as a
    pass. -/
def callsHarness : List Raw → Bool
  | [] => false
  | arg :: rest =>
    match arg.text? with
    | none => false
    | some text =>
      match text.toList with
      | '-' :: '-' :: name =>
        if name.isEmpty then false
        else if !name.contains '=' && topGrammar.options.any (·.name.toList = name) then
          match rest with
          | [] => false
          | _ :: rest => callsHarness rest
        else callsHarness rest
      | '-' :: _ => callsHarness rest
      | _ => harnessCommands.any (·.name = text)

/-- Whether a whole command line, the name of the program first, calls a harness command. -/
def isHarnessInvocation (argv : List Raw) : Bool := callsHarness argv.tail

end KernelAudit.CommandLine
