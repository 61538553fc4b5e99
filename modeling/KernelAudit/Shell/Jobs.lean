import KernelAudit.Shell.Basic

/-! Processes that a shell has started, and what it makes of their endings. -/

namespace KernelAudit.Shell

open Machine

namespace Job

def isDone (j : Job) : Bool := j.processes.all (·.2.isSome)

/-- The number by which a job is known: that of its last process. -/
def processId (j : Job) : Nat := (j.processes.getLast?.map (·.1)).getD 0

def ending (j : Job) : Option Ending := j.processes.getLast?.bind (·.2)

def status (j : Job) : Nat := (j.ending.map Ending.status).getD 0

end Job

/-- What is said of a process that a signal has ended, unless the signal is a usual one. -/
def Ending.message? : Ending → Option String
  | .exited _ => none
  | .signalled s => if s = .interrupt || s = .pipe then none else some s.description

namespace State

/-- The number of the next job. A job that is done and has been waited for gives its number away. -/
def nextJobNumber (s : State) : Nat :=
  let isFree (n : Nat) : Bool := s.jobs.all fun j => j.number ≠ n || (j.isDone && j.awaited)
  (((List.range (s.jobs.length + 1)).map (· + 1)).find? isFree).getD (s.jobs.length + 1)

def setJob (s : State) (j : Job) : State :=
  { s with jobs := s.jobs.map fun k => if k.number = j.number then j else k }

def removeJob (s : State) (number : Nat) : State :=
  { s with jobs := s.jobs.filter (·.number ≠ number) }

end State

namespace Session

/-- Makes room for a job, and gives its number. -/
def claimJob : Session Nat := do
  let number := (← get).nextJobNumber
  modify (·.removeJob number)
  return number

/-- Waits for a process of a job in the foreground. -/
def awaitProcess (id : Nat) : Session Ending :=
  act (id |> Action.iterate fun id => do
    match ← Action.ask (.await (some id) true) with
    | .ended _ ending => return .error ending
    | .noChild => return .error (.exited 127)
    | _ => return .ok id)

/-- Waits for the processes of a job in the foreground, and says what has ended them. Gives the status of
    the last one. -/
def awaitAll : List Nat → Session Nat
  | [] => pure 0
  | [id] => awaitOne id
  | id :: rest => do
    let _ ← awaitOne id
    awaitAll rest
where
  awaitOne (id : Nat) : Session Nat := do
    let ending ← awaitProcess id
    if let some message := Ending.message? ending then complain (message ++ "\n")
    return ending.status

/-- Looks what has become of the processes of a job. The endings that are new are told. -/
def pollProcesses : List (Nat × Option Ending) → Session (List (Nat × Option Ending) × List Ending)
  | [] => pure ([], [])
  | (id, known) :: rest => do
    let (processes, endings) ← pollProcesses rest
    if known.isSome then return ((id, known) :: processes, endings)
    match ← ask (.await (some id) false) with
    | .ended _ ending => return ((id, some ending) :: processes, ending :: endings)
    | .noChild => return ((id, some (.exited 127)) :: processes, endings)
    | _ => return ((id, none) :: processes, endings)

/-- Looks what has become of a job. -/
def pollJob (j : Job) : Session (Job × List Ending) := do
  let (processes, endings) ← pollProcesses j.processes
  let j := { j with processes }
  modify (·.setJob j)
  return (j, endings)

/-- Takes note of signals that have been caught. -/
def collectSignals : Session Unit := do
  let caught ← ask .caught
  modify fun s => { s with pending := s.pending ++ (caught.map (·.number)).filter fun n => !s.pending.contains n }

/-- Waits for the processes of a job that are still running; whether no signal came in between. -/
def awaitRest (j : Job) : List (Nat × Option Ending) → Session Bool
  | [] => pure true
  | (_, some _) :: rest => awaitRest j rest
  | (id, none) :: rest => do
    collectSignals
    if !(← get).pending.isEmpty then return false
    match ← ask (.await (some id) true) with
    | .ended _ ending =>
      modify fun s => { s with jobs := s.jobs.map fun k =>
        if k.number = j.number then
          { k with processes := k.processes.map fun p => if p.1 = id then (id, some ending) else p }
        else k }
      awaitRest j rest
    | .noChild => awaitRest j rest
    | _ => do
      collectSignals
      return false

/-- Waits for a job; whether no signal came in between. If asked to, says what has ended its
    processes. -/
def awaitJob (tells : Bool) (j : Job) : Session Bool := do
  let (j, endings) ← pollJob j
  let finished ← awaitRest j j.processes
  let after := (((← get).jobs.find? (·.number = j.number)).map (·.processes)).getD []
  let late := (j.processes.filter (·.2.isNone)).filterMap fun p => (after.lookup p.1).bind id
  when tells (each (fun e => complain (e ++ "\n")) ((endings ++ late).filterMap Ending.message?))
  return finished

/-! ### Jobs by name -/

/-- The job that a word names. -/
def jobNamed (word : String) (needsControl : Bool) : Session Job := do
  let jobs := (← get).jobs
  let give (problem : String) : Option Job → Session Job
    | none => fail problem
    | some j => if needsControl then fail s!"job {word} not created under job control" else pure j
  match word.toList with
  | [] | ['%'] | ['%', '+'] | ['%', '%'] => give "No current job" jobs.head?
  | ['%', '-'] => give "No previous job" jobs.tail.head?
  | '%' :: cs =>
    match (String.ofList cs).toNat? with
    | some n => give s!"No such job: {word}" (jobs.find? (·.number = n))
    | none => fail s!"No such job: {word}"
  | _ => fail s!"No such job: {word}"

end Session

end KernelAudit.Shell
