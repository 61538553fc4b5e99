import KernelAudit.CommandLine.Grammar

/-! Going through the arguments of one level from left to right. The value of an option is looked at
    only when something else comes along, so of two mistakes the one that is met first counts. -/

namespace KernelAudit.CommandLine

open Text (Raw)

/-! ### What an argument looks like -/

inductive Shape where
  | word
  /-- The mark behind which there are no options. -/
  | dashes
  /-- An option by its name, which is absent if it is not readable, with the value attached to it. -/
  | long (name : Option String) (value : Option Raw)
  /-- A cluster of letters; the mark tells that unreadable bytes follow. -/
  | short (letters : List Char) (stray : Bool)
  deriving DecidableEq, Repr

/-- The shape of an argument. A dash alone is a word. -/
def shape (arg : Raw) : Shape :=
  let stray := !arg.stray.isEmpty
  match arg.chars with
  | '-' :: '-' :: rest =>
    if rest.isEmpty && !stray then .dashes
    else
      match rest.dropWhile (· ≠ '=') with
      | _ :: value => .long (some (String.ofList (rest.takeWhile (· ≠ '=')))) (some ⟨value, arg.stray⟩)
      | [] => .long (if stray then none else some (String.ofList rest)) none
  | '-' :: rest => if rest.isEmpty && !stray then .word else .short rest stray
  | _ => .word

/-! ### The state of a level -/

/-- Arguments that have been taken in but not been looked at. -/
inductive Pending where
  | option (o : ValueOption) (value : Option Raw)
  | program (path : Raw)
  | programArgs (args : List Raw)
  deriving DecidableEq, Repr

structure Level where
  /-- The values of the options, in the order they were given. -/
  values : List (String × Raw)
  flags : List String
  program : Option Raw
  programArgs : List String
  pending : Option Pending
  /-- Whether the place of the program has been filled. -/
  programGiven : Bool
  /-- Whether there are no more options. -/
  trailing : Bool
  /-- Values from the environment, for options that were not given. -/
  fromEnv : List (String × Raw)
  deriving DecidableEq, Repr

namespace Level

def start : Level := ⟨[], [], none, [], none, false, false, []⟩

/-- Whether an option waits for its value. -/
def awaits (l : Level) : Bool :=
  match l.pending with
  | some (.option _ none) => true
  | _ => false

def hasValue (l : Level) (name : String) : Bool := l.values.any (·.1 = name)

/-- Looks at what is pending. -/
def settle (l : Level) : Except UsageError Level :=
  match l.pending with
  | none => .ok l
  | some (.option _ none) => .error .invalidValue
  | some (.option o (some value)) => do
    if !o.repeatable && l.hasValue o.name then throw .argumentConflict
    o.kind.check value
    return { l with values := l.values ++ [(o.name, value)], pending := none }
  | some (.program path) => do
    ValueKind.path.check path
    return { l with program := some path, pending := none }
  | some (.programArgs args) => do
    args.forM ValueKind.text.check
    return { l with programArgs := args.filterMap Raw.text?, pending := none }

def setFlag (l : Level) (f : Flag) : Except UsageError Level := do
  let l ← l.settle
  if f = helpFlag then throw .help
  if f.name ∈ l.flags then throw .argumentConflict
  return { l with flags := l.flags ++ [f.name] }

/-- Whether what looks like an unknown option is an argument of the program to run. -/
def takesHyphens (g : Grammar) (l : Level) : Bool := g.takesProgram && l.programGiven

/-- An argument that is no option. -/
def positional (g : Grammar) (l : Level) (arg : Raw) : Except UsageError Level :=
  if !g.takesProgram then
    .error (if g.commands.isEmpty || (l.trailing && g.commands.any arg.is) then .unknownArgument
      else .invalidSubcommand)
  else if !l.programGiven then do
    return { ← l.settle with pending := some (.program arg), programGiven := true }
  else
    match l.pending with
    | some (.programArgs args) =>
      .ok { l with pending := some (.programArgs (args ++ [arg])), trailing := true }
    | _ => do return { ← l.settle with pending := some (.programArgs [arg]), trailing := true }

/-- An argument that is the value of the option that waits for one, or else stands for itself. -/
def word (g : Grammar) (l : Level) (arg : Raw) : Except UsageError Level :=
  match l.pending with
  | some (.option o none) => .ok { l with pending := some (.option o (some arg)) }
  | _ => l.positional g arg

/-- An option by its name. -/
def long (g : Grammar) (l : Level) (arg : Raw) (name : String) (value : Option Raw) :
    Except UsageError Level :=
  match g.options.find? (·.name = name), g.flags.find? (·.name = name) with
  | some o, _ => do
    let l := { ← l.settle with pending := some (.option o value) }
    if value.isSome then l.settle else return l
  | none, some f => if value.isSome then .error .tooManyValues else l.setFlag f
  | none, none => if l.takesHyphens g then l.word g arg else .error .unknownArgument

/-- A cluster of letters. -/
def short (g : Grammar) (l : Level) (arg : Raw) (letters : List Char) (stray : Bool) :
    Except UsageError Level :=
  let flag? (c : Char) := g.flags.find? (·.short = some c)
  if l.takesHyphens g && (stray || letters.any fun c => (flag? c).isNone) then l.word g arg
  else do
    let l ← letters.foldlM (fun l c =>
      match flag? c with
      | some f => setFlag l f
      | none => .error .unknownArgument) l
    if stray then throw .unknownArgument
    return l

/-- One argument, as long as there can be options. -/
def take (g : Grammar) (l : Level) (arg : Raw) : Except UsageError Level :=
  match shape arg with
  | .word => l.word g arg
  | .dashes => .ok { l with trailing := true }
  | .long none _ => .error .unknownArgument
  | .long (some name) value => l.long g arg name value
  | .short letters stray => l.short g arg letters stray

/-- Goes through arguments up to the word that begins a command, if one does; what is behind that word
    is left alone. -/
def scan (g : Grammar) (l : Level) : List Raw → Except UsageError (Level × Option (String × List Raw))
  | [] => .ok (l, none)
  | arg :: rest =>
    if l.trailing then do scan g (← l.positional g arg) rest
    else
      match if l.awaits then none else g.commands.find? arg.is with
      | some name => .ok (l, some (name, rest))
      | none => do scan g (← l.take g arg) rest

/-- The values that the environment has for options that were not given. -/
def environment (l : Level) (env : Environment) : List ValueOption → Except UsageError (List (String × Raw))
  | [] => .ok []
  | o :: rest =>
    match if l.hasValue o.name then none else o.env.bind env with
    | some value => do
      o.kind.check value
      return (o.name, value) :: (← l.environment env rest)
    | none => l.environment env rest

/-- The end of a level: what is pending, the environment, and what the arguments must be together. -/
def finish (g : Grammar) (env : Environment) (l : Level) : Except UsageError Level := do
  let l ← l.settle
  let l := { l with fromEnv := ← l.environment env g.options }
  if "quiet" ∈ l.flags ∧ "verbose" ∈ l.flags then throw .argumentConflict
  if g.takesProgram && l.program.isNone then throw .missingArgument
  return l

end Level

end KernelAudit.CommandLine
