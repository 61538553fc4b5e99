import KernelAudit.Shell.Builtin.Options
import KernelAudit.Shell.Jobs

/-! The commands that deal with jobs, processes and signals. Each answers its status. -/

namespace KernelAudit.Shell

open Machine

/-! ### Signals by name -/

/-- The names of the signals as a shell knows them, in the order of their numbers. Number 0 is the end of
    the shell; some numbers have no name but themselves. -/
def signalNames : List String :=
  ["EXIT", "HUP", "INT", "QUIT", "ILL", "TRAP", "ABRT", "BUS", "FPE", "KILL", "USR1", "SEGV", "USR2", "PIPE",
    "ALRM", "TERM", "16", "CHLD", "CONT", "STOP", "TSTP", "TTIN", "TTOU", "URG", "XCPU", "XFSZ", "VTALRM",
    "PROF", "WINCH", "IO", "PWR", "SYS", "32", "33", "RTMIN"] ++
  (List.range 15).map (fun n => s!"RTMIN+{n + 1}") ++
  (List.range 14).map (fun n => s!"RTMAX-{14 - n}") ++ ["RTMAX"]

/-- The number of a signal that a word consists of. -/
def signalNumber? (word : String) : Option Nat :=
  if word.isEmpty || !word.toList.all Char.isDigit then none
  else word.toNat?.bind fun n => if n ≤ Signal.last then some n else none

/-- The signal that a word names. -/
def signalNamed? (least : Nat) (word : String) : Option Nat :=
  signalNumber? word <|>
    (signalNames.findIdx? fun name => name.toLower = word.toLower).bind fun n =>
      if least ≤ n then some n else none

namespace Session

/-! ### Waiting -/

/-- The status of a wait that a signal has ended. -/
def interruptedStatus : Session Nat := do return 128 + (← get).pending.getLast?.getD 0

def markAwaited (number : Nat) : Session Unit := modify fun s =>
  { s with jobs := s.jobs.map fun j => if j.number = number then { j with awaited := true } else j }

/-- Waits for jobs one after the other. -/
def awaitJobs : List Job → Session (Option Nat)
  | [] => pure none
  | j :: rest => do
    if ← awaitJob false j then
      markAwaited j.number
      awaitJobs rest
    else return some (← interruptedStatus)

/-- Waits for jobs by their names or by the numbers of their last processes. -/
def awaitNamed (status : Nat) : List String → Session Nat
  | [] => pure status
  | word :: rest => do
    let job ← if word.startsWith "%" then do pure (some (← jobNamed word false))
      else do
        let id ← natural word
        pure ((← get).jobs.find? (·.processId = id))
    match job with
    | none => awaitNamed status rest
    | some job =>
      if ← awaitJob true job then
        markAwaited job.number
        let now := (← get).jobs.find? (·.number = job.number)
        awaitNamed ((now.map Job.status).getD status) rest
      else interruptedStatus

def waitCommand (words : List String) : Session Nat := do
  match ← noOptions words with
  | [] => return (← awaitJobs (← get).jobs).getD 0
  | words => awaitNamed 127 words

/-! ### Showing jobs -/

/-- The state of a job in words. -/
def jobState (j : Job) : String :=
  if !j.isDone then "Running"
  else match j.ending with
    | some (.signalled s) => s.description
    | some (.exited 0) | none => "Done"
    | some (.exited n) => s!"Done({n})"

/-- How a list of jobs shows them. -/
inductive JobStyle where
  | states
  | withProcesses
  | processesOnly
  deriving DecidableEq, Repr

def padTo (width : Nat) (text : String) : String :=
  text ++ String.ofList (List.replicate (max (width - text.length) 1) ' ')

/-- The lines for a job. -/
def jobText (style : JobStyle) (jobs : List Job) (j : Job) : String :=
  let first := (j.processes.head?.map (·.1)).getD 0
  let mark := if jobs.head?.any (·.number = j.number) then "+"
    else if jobs.tail.head?.any (·.number = j.number) then "-" else " "
  let front := s!"[{j.number}] {mark} "
  let others := j.processes.tail
  match style with
  | .processesOnly => s!"{first}\n"
  | .states => padTo 33 (front ++ jobState j) ++ String.join (others.map fun _ => " | ") ++ "\n"
  | .withProcesses =>
    let indent := String.ofList (List.replicate front.length ' ')
    let lines := others.map fun p =>
      let line := indent ++ toString p.1 ++ " "
      " |\n" ++ line ++ String.ofList (List.replicate (33 - line.length + 1) ' ')
    padTo 33 (front ++ toString first ++ " " ++ jobState j) ++ String.join lines ++ "\n"

/-- Shows a job. One that is done is then forgotten. -/
def showJob (style : JobStyle) (j : Job) : Session Unit := do
  print (jobText style (← get).jobs j)
  when (j.isDone && style ≠ .processesOnly) (modify (·.removeJob j.number))

def jobsCommand (words : List String) : Session Nat := do
  let given ← options [flag 'l', flag 'p'] words
  let style := match (given.options.getLast?.map (·.1)) with
    | some 'l' => JobStyle.withProcesses
    | some _ => .processesOnly
    | none => .states
  let poll : Session Unit := do each (fun j => do let _ ← pollJob j) (← get).jobs
  poll
  if given.words.isEmpty then each (showJob style) (← get).jobs
  else each (fun word => do showJob style (← jobNamed word false)) given.words
  return 0

/-- A command that needs jobs under control, of which there are none. -/
def controlCommand (words : List String) : Session Nat := do
  let words ← noOptions words
  let _ ← jobNamed (words.head?.getD "") true
  return 0

/-! ### Signals -/

def killUsage : String :=
  "Usage: kill [-s sigspec | -signum | -sigspec] [pid | job]... or\nkill -l [exitstatus]"

/-- Sends a signal to whom a word names; whether that worked. -/
def sendTo (signal : Nat) (word : String) : Session Bool := do
  let addressee : Option Addressee ← match word.toList with
    | '%' :: _ => do
      let _ ← jobNamed word false
      pure none
    | '-' :: cs => do
      let n ← natural (String.ofList cs)
      pure (if n = 1 then some .everybody else if n = 0 then some .ownGroup else none)
    | _ => do
      let n ← natural word
      pure (some (if n = 0 then .ownGroup else .process n))
  let answer ← match addressee with
    | some whom => ask (.send whom ⟨signal⟩)
    | none => pure (.error .noProcess)
  match answer with
  | .ok () => return true
  | .error e =>
    warn (e.message ++ "\n")
    return false

/-- What a list of signals shows. -/
def listSignals : List String → Session Nat
  | [] => do
    print ("0\n" ++ String.join (signalNames.tail.map (· ++ "\n")))
    return 0
  | word :: _ => do
    let n ← natural word
    let n := if 128 < n then n - 128 else n
    match if n = 0 then none else signalNames[n]? with
    | some name =>
      print (name ++ "\n")
      return 0
    | none => fail s!"invalid signal number or exit status: {word}"

def killCommand (words : List String) : Session Nat := do
  let (signal, lists, words) ← match words with
    | word :: rest =>
      if word.startsWith "-" then
        match signalNamed? 1 (String.ofList (word.toList.drop 1)) with
        | some n => pure (some n, false, rest)
        | none => do
          let given ← options [flag 'l', ⟨'s', true⟩] words
          let signal ← match given.options.reverse.lookup 's' with
            | none => pure none
            | some name =>
              match signalNamed? 1 name with
              | some n => pure (some n)
              | none => fail s!"invalid signal number or name: {name}"
          pure (signal, given.has 'l', given.words)
      else pure (none, false, words)
    | [] => fail killUsage
  let signal := if lists then signal else some (signal.getD Signal.terminate.number)
  if (signal.isNone || words.isEmpty) ≠ lists then fail killUsage
  else if lists then listSignals words
  else
    let worked ← map (sendTo (signal.getD 0)) words
    return if worked.all id then 0 else 1

/-! ### Traps -/

/-- Arranges what is to happen on a signal, as far as the shell has a say in it. -/
def arrange (signal : Nat) : Session Unit := do
  let s ← get
  if signal ≠ 0 && !s.deaf.contains signal then
    ask (.arrange ⟨signal⟩ (match s.trap? signal with
      | none => .standard
      | some "" => .ignored
      | some _ => .caught))

/-- Sets a trap or takes it away. -/
def setTrap (signal : Nat) (action : Option String) : Session Unit := do
  modify fun s =>
    let before := s.traps.filter (·.1 < signal)
    let after := s.traps.filter (signal < ·.1)
    { s with traps := before ++ (action.map fun a => (signal, a)).toList ++ after }
  arrange signal

def setTraps (action : Option String) : List String → Session Nat
  | [] => pure 0
  | word :: rest => do
    match signalNamed? 0 word with
    | none =>
      complain s!"trap: {word}: bad trap\n"
      return 1
    | some signal =>
      setTrap signal action
      setTraps action rest

def trapCommand (words : List String) : Session Nat := do
  match ← noOptions words with
  | [] =>
    each (fun (signal, action) =>
      print ("trap -- " ++ singleQuoted action ++ " " ++ (signalNames[signal]?).getD "" ++ "\n")) (← get).traps
    return 0
  | [word] => setTraps none [word]
  | word :: rest =>
    if (signalNumber? word).isSome then setTraps none (word :: rest)
    else setTraps (if word = "-" then none else some word) rest

/-- Forgets the traps that a copy of the shell does not have. -/
def dropTraps : Session Unit := do
  let dropped := (← get).traps.filter (·.2 ≠ "")
  each (fun (signal, _) => setTrap signal none) dropped
  modify ({ · with pending := [] })

end Session

end KernelAudit.Shell
