import KernelAudit.Machine.FileSystem
import KernelAudit.Machine.Signal

/-! Processes. A process is what it asks of the machine next and how it goes on with the answer; it ends
    with a status. Programs are written as actions, which are processes that go on with a value. -/

namespace KernelAudit.Machine

/-- What can be seen of a node without opening it. -/
inductive Kind where
  | directory
  | regular
  | characters
  | link
  | queue
  deriving DecidableEq, Repr

structure Status where
  node : Nat
  kind : Kind
  size : Nat
  mode : Nat
  modified : Nat
  /-- The program in the node, if there is one. -/
  program : Option String
  deriving DecidableEq, Repr

/-- What comes of looking for a child that has ended. -/
inductive Awaited where
  | ended (child : Nat) (ending : Ending)
  | stillRunning
  | interrupted
  | noChild
  deriving DecidableEq, Repr

/-- Whom a signal is sent to. -/
inductive Addressee where
  | process (id : Nat)
  | ownGroup
  | everybody
  deriving DecidableEq, Repr

/-- A request of a process. -/
inductive Call where
  /-- A stretch of work, in microseconds. -/
  | work (cost : Nat)
  | clock
  /-- Waits for a time to come; the answer tells whether it came before a signal did. -/
  | sleepUntil (time : Nat)
  | ownId
  | parentId
  | openFile (path : String) (how : FileSystem.Opening)
  | close (descriptor : Nat)
  /-- Opens a second descriptor on the same file, not below the given number. -/
  | duplicate (descriptor least : Nat)
  | duplicateTo (descriptor target : Nat)
  | read (descriptor count : Nat)
  /-- Moves back in a file. -/
  | unread (descriptor count : Nat)
  | write (descriptor : Nat) (text : String)
  | pipe
  | status (path : String) (follow : Bool)
  | statusOf (descriptor : Nat)
  | list (path : String)
  | linkTarget (path : String)
  | workingDirectory
  | changeDirectory (path : String)
  | makeDirectory (path : String) (mode : Nat)
  | removeDirectory (path : String)
  | unlink (path : String)
  | rename (source target : String)
  | makeLink (target path : String)
  | linkTo (source target : String)
  | setMode (path : String) (mode : Nat)
  | touch (path : String)
  /-- Sets the permissions that new files do not get, and tells the former ones. -/
  | setMask (mask : Option Nat)
  | await (child : Option Nat) (block : Bool)
  | send (addressee : Addressee) (signal : Signal)
  | arrange (signal : Signal) (disposition : Disposition)
  | disposition (signal : Signal)
  /-- The signals that have been caught since the last time. -/
  | caught
  /-- Becomes another program: what is arranged to be caught is left to the machine again, and
      descriptors that were set aside are closed. -/
  | renew

/-- The answer to a request. -/
abbrev Call.Answer : Call → Type
  | .work _ => Unit
  | .clock | .ownId | .parentId => Nat
  | .sleepUntil _ => Bool
  | .openFile .. | .duplicate .. => Except Errno Nat
  | .close _ | .duplicateTo .. | .unread .. => Except Errno Unit
  | .read .. => Except Errno String
  | .write .. => Except Errno Nat
  | .pipe => Nat × Nat
  | .status .. | .statusOf _ => Except Errno Status
  | .list _ => Except Errno (List String)
  | .linkTarget _ => Except Errno String
  | .workingDirectory => String
  | .changeDirectory _ | .makeDirectory .. | .removeDirectory _ | .unlink _ | .rename .. | .makeLink ..
  | .linkTo .. | .setMode .. | .touch _ | .send .. => Except Errno Unit
  | .setMask _ => Nat
  | .await .. => Awaited
  | .arrange .. | .renew => Unit
  | .disposition _ => Disposition
  | .caught => List Signal

inductive Process where
  | exit (status : Nat)
  | call (request : Call) (next : request.Answer → Process)
  /-- Starts a child and goes on with its number. -/
  | fork (child : Process) (next : Nat → Process)

/-- A part of a process that ends in a value. -/
def Action (α : Type) : Type := (α → Process) → Process

namespace Action

instance : Monad Action where
  pure a := fun next => next a
  bind act f := fun next => act fun a => f a next

/-- Asks the machine. -/
def ask (request : Call) : Action request.Answer := fun next => .call request next

/-- Ends the process. -/
def exit (status : Nat) : Action α := fun _ => .exit (status % 256)

/-- Starts a child that ends with the status that the action gives. -/
def fork (child : Action Nat) : Action Nat := fun next => .fork (child fun status => .exit (status % 256)) next

/-- A time that never comes. -/
def never : Nat := 1000000000000000000

/-- Does nothing for ever. -/
def hang : Action α := fun _ => .call (.sleepUntil never) fun _ => .exit 0

/-- More turns than any process has time for. -/
def turns : Nat := 10000000

/-- Goes from state to state until there is a value. -/
def iterateFor (step : σ → Action (Except α σ)) : Nat → σ → Action α
  | 0, _ => hang
  | fuel + 1, s => do
    match ← step s with
    | .error a => pure a
    | .ok s => iterateFor step fuel s

def iterate (step : σ → Action (Except α σ)) (s : σ) : Action α := iterateFor step turns s

/-- Writes all of a text. -/
def write (descriptor : Nat) (text : String) : Action (Except Errno Unit) :=
  if text.isEmpty then pure (.ok ())
  else text |> iterate fun rest => do
    match ← ask (.write descriptor rest) with
    | .error e => pure (.error (.error e))
    | .ok n =>
      let rest := String.ofList (rest.toList.drop n)
      pure (if rest.isEmpty then .error (.ok ()) else .ok rest)

/-- Writes what can be written. -/
def put (text : String) : Action Unit := do
  let _ ← write 1 text

def complain (text : String) : Action Unit := do
  let _ ← write 2 text

/-- What is read at a time. -/
def blockSize : Nat := 65536

/-- Reads to the end. -/
def readAll (descriptor : Nat) : Action (Except Errno String) :=
  ([] : List String) |> iterate fun blocks => do
    match ← ask (.read descriptor blockSize) with
    | .error e => pure (.error (.error e))
    | .ok "" => pure (.error (.ok (String.join blocks.reverse)))
    | .ok block => pure (.ok (block :: blocks))

/-- Pauses for some microseconds. -/
def pause (microseconds : Nat) : Action Unit := do
  let now ← ask .clock
  let _ ← ask (.sleepUntil (now + microseconds))

end Action

end KernelAudit.Machine
