import KernelAudit.Machine.Process
import KernelAudit.Shell.Arithmetic
import KernelAudit.Shell.Reader

/-! The state of a shell, and the activities of one: parts of a process that carry that state along and
    can be broken off. -/

namespace KernelAudit.Shell

open Machine

structure Variable where
  value : Option String
  exported : Bool
  readOnly : Bool
  deriving DecidableEq, Repr

/-- Processes that were started together in the background, with their endings as far as they are known. -/
structure Job where
  number : Nat
  processes : List (Nat × Option Ending)
  /-- Whether somebody has waited for it to end. -/
  awaited : Bool
  deriving Repr

/-- What a function has made local: what variables and options have been before. -/
structure Frame where
  bindings : List (String × Option Variable)
  options : Option (List Char)

structure State where
  /-- The name that the shell goes by. -/
  name : String
  arguments : List String
  bindings : List (String × Variable)
  functions : List (String × Command)
  aliases : List (String × String)
  /-- The letters of the options that are on. -/
  options : List Char
  status : Nat
  processId : Nat
  lastStarted : Option Nat
  /-- The line that messages speak of. -/
  line : Nat
  /-- The command that messages speak of. -/
  command : Option String
  /-- What to do on a signal, in the order of their numbers; number 0 stands for the end of the shell. -/
  traps : List (Nat × String)
  /-- Signals that were ignored when the shell began; traps have no effect on them. -/
  deaf : List Nat
  /-- The status from before a trap, while one is being run. -/
  trapStatus : Option Nat
  /-- The newest one comes first. -/
  jobs : List Job
  /-- Signals that have been caught and wait for their traps. -/
  pending : List Nat
  /-- The directory that the shell believes to be in, by the names that led there. -/
  directory : String
  /-- Paths of programs that have been looked up. -/
  known : List (String × String)
  loops : Nat
  /-- What is hidden by local variables; the innermost function comes first. -/
  hidden : List Frame
  /-- The status of the last substitution in a command. -/
  substituted : Nat
  /-- How many functions are running. -/
  functionDepth : Nat
  /-- The argument from which options are read next. -/
  optionIndex : Nat
  /-- Where the reading of options has come to within an argument. -/
  optionOffset : Option Nat
  /-- What a command has printed so far; it is written when the command ends. -/
  printed : String
  printFailed : Bool

/-- Why an activity is broken off. -/
inductive Abort where
  /-- Leaves some loops. -/
  | leave (loops : Nat)
  /-- Leaves all but one of some loops and goes on with that one. -/
  | again (loops : Nat)
  | return (given : Bool)
  | exit
  | error
  deriving DecidableEq, Repr

/-- An activity of a shell. -/
def Session (α : Type) : Type := State → (Except Abort α → State → Process) → Process

namespace Session

instance : Monad Session where
  pure a := fun s next => next (.ok a) s
  bind act f := fun s next => act s fun r s =>
    match r with
    | .ok a => f a s next
    | .error e => next (.error e) s

def get : Session State := fun s next => next (.ok s) s
def set (s : State) : Session Unit := fun _ next => next (.ok ()) s
def modify (f : State → State) : Session Unit := fun s next => next (.ok ()) (f s)

def abort (e : Abort) : Session α := fun s next => next (.error e) s

/-- The outcome of an activity, whether or not it is broken off. -/
def attempt (act : Session α) : Session (Except Abort α) := fun s next => act s fun r s => next (.ok r) s

def ofExcept (r : Except Abort α) : Session α := fun s next => next r s

def act (a : Action α) : Session α := fun s next => a fun r => next (.ok r) s

def ask (request : Call) : Session request.Answer := act (Action.ask request)

/-- Does something with another state, and goes on with what the state is then made into. -/
def hang : Session α := fun _ _ => Action.hang fun (_ : Unit) => .exit 0

/-- Ends the process at once. -/
def finish (status : Nat) : Session α := fun _ _ => .exit (status % 256)

/-- Starts a copy of the shell, which ends with the status that it has come to. -/
def fork (child : Session Unit) : Session Nat := fun s next =>
  .fork (child s fun _ s => .exit (s.status % 256)) fun id => next (.ok id) s

def when (b : Bool) (act : Session Unit) : Session Unit := if b then act else pure ()

/-- Does something for each element in turn. -/
def each (f : α → Session Unit) : List α → Session Unit
  | [] => pure ()
  | a :: rest => do
    f a
    each f rest

def map (f : α → Session β) : List α → Session (List β)
  | [] => pure []
  | a :: rest => do
    let b ← f a
    return b :: (← map f rest)

end Session

/-! ### Variables -/

namespace State

def binding? (s : State) (name : String) : Option Variable := s.bindings.lookup name

def value? (s : State) (name : String) : Option String := (s.binding? name).bind (·.value)

def setVariable (s : State) (name : String) (v : Variable) : State :=
  { s with bindings :=
      if s.bindings.any (·.1 = name) then s.bindings.map fun p => if p.1 = name then (name, v) else p
      else s.bindings ++ [(name, v)] }

def removeVariable (s : State) (name : String) : State :=
  { s with bindings := s.bindings.filter (·.1 ≠ name) }

def hasOption (s : State) (letter : Char) : Bool := s.options.contains letter

def setOption (s : State) (letter : Char) (on : Bool) : State :=
  { s with options :=
      if on then (if s.options.contains letter then s.options else letter :: s.options)
      else s.options.filter (· ≠ letter) }

/-- Makes a variable what it was. -/
def restoreVariable (s : State) (saved : String × Option Variable) : State :=
  match saved with
  | (name, some v) => s.setVariable name v
  | (name, none) => s.removeVariable name

/-- What a program that is started gets to know. -/
def environment (s : State) : List (String × String) :=
  s.bindings.filterMap fun (name, v) => if v.exported then v.value.map (name, ·) else none

def trap? (s : State) (number : Nat) : Option String := s.traps.lookup number

/-- The characters between fields. -/
def separators (s : State) : String := (s.value? "IFS").getD " \t\n"

end State

namespace Session

/-! ### Messages -/

/-- Writes a text to the output for errors. -/
def complain (text : String) : Session Unit := act (Action.complain text)

/-- A message with the name of the shell, the line and the command. -/
def warn (message : String) : Session Unit := do
  let s ← get
  let command := (s.command.map (· ++ ": ")).getD ""
  complain s!"{s.name}: {s.line}: {command}{message}\n"

/-- Writes what has been printed. -/
def flush : Session Unit := do
  let s ← get
  if s.printed.isEmpty then pure ()
  else
    set { s with printed := "" }
    match ← act (Action.write 1 s.printed) with
    | .ok _ => pure ()
    | .error _ => modify fun s => { s with printFailed := true }

/-- Gives up with a message. -/
def fail (message : String) : Session α := do
  modify ({ · with status := 2 })
  warn message
  flush
  abort .error

/-- Gives up with a status of its own. -/
def failWith (status : Nat) (message : String) (why : Abort) : Session α := do
  warn message
  flush
  modify ({ · with status })
  abort why

def print (text : String) : Session Unit := modify fun s => { s with printed := s.printed ++ text }

def setStatus (status : Nat) : Session Unit := modify ({ · with status })

/-! ### Assignments -/

/-- The greatest number that a word may be. -/
def greatestNumber : Int := 2147483647

/-- The number that a word is. -/
def natural (word : String) : Session Nat :=
  match Arithmetic.number? (some 10) word with
  | some n => if 0 ≤ n && n.toInt ≤ greatestNumber then pure n.toInt.toNat else fail s!"Illegal number: {word}"
  | none => fail s!"Illegal number: {word}"

/-- Takes note of a new value, where the shell itself goes by it. -/
def heed (name value : String) : Session Unit := do
  if name = "OPTIND" then
    let n ← natural value
    modify ({ · with optionIndex := max 1 n, optionOffset := none })
  else when (name = "PATH") (modify ({ · with known := [] }))

/-- Gives a variable a value. -/
def assign (name value : String) (exported : Bool) : Session Unit := do
  let s ← get
  let old := (s.binding? name).getD ⟨none, false, false⟩
  if old.readOnly then fail s!"{name}: is read only"
  heed name value
  let exported := old.exported || exported || s.hasOption 'a'
  modify (·.setVariable name ⟨some value, exported, false⟩)

def unassign (name : String) : Session Unit := do
  match (← get).binding? name with
  | none => pure ()
  | some v =>
    if v.readOnly then fail s!"{name}: is read only"
    heed name ""
    modify (·.removeVariable name)

/-- Lets a variable be what it was when the function ends. -/
def hide (name : String) : Session Unit := modify fun s =>
  match s.hidden with
  | [] => s
  | top :: rest => { s with hidden := { top with bindings := (name, s.binding? name) :: top.bindings } :: rest }

/-- Lets the options be what they were when the function ends. -/
def hideOptions : Session Unit := modify fun s =>
  match s.hidden with
  | [] => s
  | top :: rest => { s with hidden := { top with options := some (top.options.getD s.options) } :: rest }

/-- Begins to remember what is made local. -/
def beginLocals : Session Unit := modify fun s => { s with hidden := ⟨[], none⟩ :: s.hidden }

/-- Brings back what has been made local. -/
def endLocals : Session Unit := do
  let s ← get
  match s.hidden with
  | [] => pure ()
  | top :: rest =>
    let restored := top.bindings.foldl State.restoreVariable s
    set { restored with hidden := rest, options := top.options.getD s.options }
    each (fun (name, former) => do
      if let some value := former.bind (·.value) then
        let _ ← attempt (heed name value)) top.bindings

end Session

end KernelAudit.Shell
