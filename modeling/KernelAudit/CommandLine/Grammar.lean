import KernelAudit.CommandLine.Basic

/-! What may stand on a command line: the options, flags and positional arguments of each command. The
    options and flags that all commands share may stand before a command and behind it. -/

namespace KernelAudit.CommandLine

open Text (Raw)

/-! ### Values -/

/-- A number of at most sixty-four bits, a plus sign before it or not. -/
def readNumber? (s : String) : Option Nat :=
  let digits := match s.toList with
    | '+' :: rest => rest
    | cs => cs
  if digits.isEmpty || !digits.all Char.isDigit then none
  else
    let n := digits.foldl (fun n c => n * 10 + (c.toNat - '0'.toNat)) 0
    if n < 2 ^ 64 then some n else none

/-- What the value of an option has to be. -/
inductive ValueKind where
  | choice (names : List String)
  | number
  | text
  | path
  deriving DecidableEq, Repr

/-- What is wrong with a value, if anything is. -/
def ValueKind.check (kind : ValueKind) (value : Raw) : Except UsageError Unit :=
  match kind, value.text? with
  | .choice names, some s => if s ∈ names then .ok () else .error .invalidValue
  | .choice _, none => .error .invalidValue
  | .number, some s => if (readNumber? s).isSome then .ok () else .error .valueValidation
  | .number, none | .text, none => .error .invalidEncoding
  | .text, some _ => .ok ()
  | .path, _ => if value.isEmpty then .error .invalidValue else .ok ()

/-! ### Arguments -/

/-- An option that takes a value. If it is not given, the variable `env` stands for it. -/
structure ValueOption where
  name : String
  kind : ValueKind
  repeatable : Bool
  env : Option String
  deriving DecidableEq, Repr

structure Flag where
  name : String
  short : Option Char
  deriving DecidableEq, Repr

/-- The arguments of one level: of the program itself or of one of its commands. -/
structure Grammar where
  options : List ValueOption
  flags : List Flag
  /-- The words that begin a command. -/
  commands : List String
  /-- Whether a program to run is expected, with arguments of its own. -/
  takesProgram : Bool

def once (name : String) (kind : ValueKind) : ValueOption := ⟨name, kind, false, none⟩

def repeated (name : String) (kind : ValueKind) : ValueOption := ⟨name, kind, true, none⟩

def globalOptions : List ValueOption :=
  [ ⟨"format", .choice (OutputFormat.all.map OutputFormat.name), false, some "REFCHECK_FORMAT"⟩,
    ⟨"backend", .choice ([Backend.reference, .linked].map Backend.name), false, some "REFCHECK_BACKEND"⟩ ]

def globalFlags : List Flag :=
  [⟨"quiet", some 'q'⟩, ⟨"verbose", some 'v'⟩, ⟨"no-color", none⟩]

def helpFlag : Flag := ⟨"help", some 'h'⟩

/-- The options of the sort validator. -/
def sortOptions : List ValueOption :=
  [once "trials" .number, once "buffer-len" .number, ⟨"seed", .number, false, some "REFCHECK_SEED"⟩]

def checkOptions : List ValueOption :=
  [once "category" (.choice (CategoryFilter.every.map CategoryFilter.name)), repeated "skip" .text,
    repeated "only" .text, once "timeout" .number] ++ sortOptions ++
    [once "baseline" .path, once "save-baseline" .path]

inductive CommandName where
  | check
  | numeric
  | sort
  | probe
  | list
  | version
  deriving DecidableEq, Repr

namespace CommandName

def all : List CommandName := [.check, .numeric, .sort, .probe, .list, .version]

def name : CommandName → String
  | .check => "check"
  | .numeric => "numeric"
  | .sort => "sort"
  | .probe => "probe"
  | .list => "list"
  | .version => "version"

def options : CommandName → List ValueOption
  | .check => checkOptions
  | .sort => sortOptions
  | .probe => [once "timeout" .number]
  | .numeric | .list | .version => []

def flags : CommandName → List Flag
  | .check => [⟨"fail-fast", none⟩]
  | _ => []

/-- The arguments behind the command. -/
def grammar (c : CommandName) : Grammar where
  options := c.options ++ globalOptions
  flags := c.flags ++ globalFlags ++ [helpFlag]
  commands := []
  takesProgram := c = .probe

end CommandName

/-- The word that asks for help on the words behind it. -/
def helpWord : String := "help"

/-- The arguments of the program itself. -/
def topGrammar : Grammar where
  options := globalOptions
  flags := globalFlags ++ [helpFlag]
  commands := CommandName.all.map CommandName.name ++ [helpWord]
  takesProgram := false

end KernelAudit.CommandLine
