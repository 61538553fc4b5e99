import KernelAudit.Machine.Requests

/-! Running the processes of a machine. Each has its turn, in which it runs until it has to wait or has
    made a number of requests; when all of them wait, the clock moves on to the next time that one of
    them waits for. -/

namespace KernelAudit.Machine

namespace Computer

/-- How many requests a process makes in one turn at most. -/
def turnLength : Nat := 200

/-- How many turns a machine gives. A machine that has used them up is taken to run on without end. -/
def turnLimit : Nat := 30000

/-- A child of a process has all that its parent has. -/
def spawn (c : Computer) (t : Task) (child : Process) : Nat × Computer :=
  let id := c.nextTask
  let task : Task := { t with id, parent := t.id, condition := .running child, caught := [], interrupted := false }
  (id, { c with tasks := c.tasks ++ [task], nextTask := id + 1 })

def suspend (c : Computer) (id : Nat) (p : Process) : Computer :=
  c.setTask id fun t => if t.isRunning then { t with condition := .running p } else t

/-- The rest of a turn; whether anything has happened in it is told with the machine. -/
def turn : (requests : Nat) → Computer → (id : Nat) → Process → Bool → Computer × Bool
  | 0, c, id, p, happened => (c.suspend id p, happened)
  | n + 1, c, id, p, happened =>
    match c.task? id with
    | none => (c, happened)
    | some t =>
      if !t.isRunning then (c, happened)
      else if t.stopped then (c.suspend id p, happened)
      else match p with
        | .exit status => (c.finish id (.exited status), true)
        | .fork child next =>
          let (number, c) := c.spawn t child
          turn n c id (next number) true
        | .call request next =>
          match c.answer t request with
          | none => (c.suspend id p, happened)
          | some (a, c) =>
            let c := if t.interrupted then c.setTask id ({ · with interrupted := false }) else c
            turn n c id (next a) true

/-- Gives a turn to the process that has waited longest for one. -/
def next (c : Computer) : Computer × Bool :=
  match c.tasks with
  | [] => (c, false)
  | t :: rest =>
    let c := { c with tasks := rest ++ [t] }
    match t.condition with
    | .ended _ => (c, false)
    | .running p => if t.stopped then (c, false) else c.turn turnLength t.id p false

/-- The next time that a process waits for. -/
def wakeTime? (c : Computer) : Option Nat :=
  (c.tasks.filterMap fun t =>
    match t.condition with
    | .running (.call (.sleepUntil time) _) => if t.stopped then none else some time
    | _ => none).min?

/-- Runs the machine until something is the case or a time has come. `idle` counts the turns in a row
    in which nothing has happened. -/
def runFor (isDone : Computer → Bool) (horizon : Nat) : (turns idle : Nat) → Computer → Computer
  | 0, _, c => { c with clock := max c.clock horizon }
  | turns + 1, idle, c =>
    if isDone c || horizon ≤ c.clock then c
    else if c.tasks.length ≤ idle then
      match c.wakeTime? with
      | some time => runFor isDone horizon turns 0 { c with clock := min (max c.clock time) horizon }
      | none => { c with clock := horizon }
    else
      let (c, happened) := c.next
      runFor isDone horizon turns (if happened then 0 else idle + 1) c

def run (c : Computer) (isDone : Computer → Bool) (horizon : Nat) : Computer :=
  c.runFor isDone horizon turnLimit 0

/-! ### Programs under supervision -/

/-- The pipes that take the output of a program. -/
def outputPipe : Nat := 1
def errorPipe : Nat := 2

def firstTask : Nat := 4242

/-- A machine on which a program is about to run in some directory. Its input is empty. -/
def boot (files : FileSystem) (nullDevice directory : Nat) (program : Process) : Computer where
  files := files
  tasks :=
    [{ id := firstTask, parent := 0, condition := .running program, stopped := false
       descriptors := [⟨0, 0, false⟩, ⟨1, 1, false⟩, ⟨2, 2, false⟩]
       directory := directory, mask := 0o022, dispositions := [], caught := [], interrupted := false }]
  opened :=
    [⟨0, .node nullDevice, 0, true, true, false⟩, ⟨1, .sink outputPipe, 0, false, true, false⟩,
      ⟨2, .sink errorPipe, 0, false, true, false⟩]
  pipes := [⟨outputPipe, .empty, 0, true, []⟩, ⟨errorPipe, .empty, 0, true, []⟩]
  clock := 0
  nextTask := firstTask + 1
  nextFile := 3

def ending? (c : Computer) (id : Nat) : Option Ending :=
  (c.task? id).bind fun t =>
    match t.condition with
    | .ended ending => some ending
    | .running _ => none

/-- What has come through a pipe that is drained. -/
def drained (c : Computer) (pipe : Nat) : List UInt8 :=
  let received := ((c.pipe? pipe).map (·.received)).getD []
  received.foldl (fun after text => Octets.toBytes text ++ after) []

end Computer

/-- What is known of a program when it has ended or its time is up. -/
structure Supervised where
  /-- How the program ended; one that was killed at its deadline has no ending. -/
  ending : Option Ending
  output : List UInt8
  errors : List UInt8
  elapsed : Nat
  files : FileSystem

/-- How long output is awaited from processes that a program has left behind, in microseconds. -/
def grace : Nat := 200000

/-- Runs a program until it ends, but no longer than to its deadline. -/
def supervise (c : Computer) (deadline : Nat) : Supervised :=
  let c := c.run (fun c => (c.ending? Computer.firstTask).isSome) deadline
  let ending := c.ending? Computer.firstTask
  let elapsed := c.clock
  let c := if ending.isNone then c.finish Computer.firstTask (.signalled .kill) else c
  let c := c.run (fun c => !c.hasWriter Computer.outputPipe) (c.clock + grace)
  let output := c.drained Computer.outputPipe
  let c := c.run (fun c => !c.hasWriter Computer.errorPipe) (c.clock + grace)
  ⟨ending, output, c.drained Computer.errorPipe, elapsed, c.files⟩

end KernelAudit.Machine
