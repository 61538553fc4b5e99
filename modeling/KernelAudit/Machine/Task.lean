import KernelAudit.Machine.Process

/-! The state of a machine: its files, its processes with what they have open, the pipes between them,
    and the time. -/

namespace KernelAudit.Machine

/-- What is behind a descriptor. -/
inductive Object where
  | node (id : Nat)
  | source (pipe : Nat)
  | sink (pipe : Nat)
  deriving DecidableEq, Repr

/-- The pipe that an object is an end of. -/
def Object.pipe? : Object → Option Nat
  | .node _ => none
  | .source pipe | .sink pipe => some pipe

/-- Something that has been opened, with the place that reading or writing has come to. Descriptors
    that were made from one another share it. -/
structure OpenFile where
  id : Nat
  object : Object
  offset : Nat
  readable : Bool
  writable : Bool
  append : Bool
  deriving Repr

/-- The bytes on their way through a pipe. A pipe that is drained has a reader outside the machine, who
    takes everything at once. -/
structure Pipe where
  id : Nat
  bytes : ByteArray
  /-- How many of the bytes have been read. -/
  taken : Nat
  drained : Bool
  /-- What has been taken outside the machine; the last text comes first. -/
  received : List String

/-- A descriptor of a process. One that is set aside does not outlive the program. -/
structure Descriptor where
  number : Nat
  file : Nat
  setAside : Bool
  deriving DecidableEq, Repr

inductive Condition where
  | running (process : Process)
  | ended (ending : Ending)

structure Task where
  id : Nat
  parent : Nat
  condition : Condition
  stopped : Bool
  descriptors : List Descriptor
  directory : Nat
  mask : Nat
  dispositions : List (Signal × Disposition)
  /-- Signals that were caught and not yet asked for. -/
  caught : List Signal
  /-- Whether one was caught since the last request was answered. -/
  interrupted : Bool

structure Computer where
  files : FileSystem
  tasks : List Task
  opened : List OpenFile
  pipes : List Pipe
  clock : Nat
  nextTask : Nat
  nextFile : Nat

namespace Task

def isRunning (t : Task) : Bool :=
  match t.condition with
  | .running _ => true
  | .ended _ => false

def disposition (t : Task) (s : Signal) : Disposition := (t.dispositions.lookup s).getD .standard

def descriptor? (t : Task) (number : Nat) : Option Descriptor :=
  t.descriptors.find? (·.number = number)

/-- The first number from a given one on that is free. -/
def freeNumber (t : Task) (least : Nat) : Nat :=
  let used := t.descriptors.map (·.number)
  ((List.range (used.length + 1)).map (· + least)).find? (fun n => !used.contains n) |>.getD least

def withDescriptor (t : Task) (d : Descriptor) : Task :=
  { t with descriptors := d :: t.descriptors.filter (·.number ≠ d.number) }

def withoutDescriptor (t : Task) (number : Nat) : Task :=
  { t with descriptors := t.descriptors.filter (·.number ≠ number) }

end Task

namespace Computer

def task? (c : Computer) (id : Nat) : Option Task := c.tasks.find? (·.id = id)

def setTask (c : Computer) (id : Nat) (f : Task → Task) : Computer :=
  { c with tasks := c.tasks.map fun t => if t.id = id then f t else t }

def file? (c : Computer) (id : Nat) : Option OpenFile := c.opened.find? (·.id = id)

def setFile (c : Computer) (id : Nat) (f : OpenFile → OpenFile) : Computer :=
  { c with opened := c.opened.map fun o => if o.id = id then f o else o }

def pipe? (c : Computer) (id : Nat) : Option Pipe := c.pipes.find? (·.id = id)

def setPipe (c : Computer) (id : Nat) (f : Pipe → Pipe) : Computer :=
  { c with pipes := c.pipes.map fun p => if p.id = id then f p else p }

/-- What a process has open under a number. -/
def opened? (c : Computer) (t : Task) (number : Nat) : Option OpenFile :=
  (t.descriptor? number).bind fun d => c.file? d.file

/-- Forgets what no process has open any more, and a pipe when both its ends are closed. -/
def dropUnused (c : Computer) (file : Nat) : Computer :=
  if c.tasks.any fun t => t.descriptors.any (·.file = file) then c
  else
    let opened := c.opened.filter (·.id ≠ file)
    match (c.file? file).bind (·.object.pipe?) with
    | none => { c with opened }
    | some pipe =>
      if opened.any (·.object.pipe? = some pipe) then { c with opened }
      else { c with opened, pipes := c.pipes.filter fun p => p.drained || p.id ≠ pipe }

/-- Whether somebody can still write into a pipe. -/
def hasWriter (c : Computer) (pipe : Nat) : Bool := c.opened.any fun o => o.object = .sink pipe

def hasReader (c : Computer) (p : Pipe) : Bool :=
  p.drained || c.opened.any fun o => o.object = .source p.id

/-- Opens something for a process under the lowest number that is free. -/
def openFor (c : Computer) (t : Task) (object : Object) (readable writable append : Bool) :
    Nat × Computer :=
  let number := t.freeNumber 0
  let file : OpenFile := ⟨c.nextFile, object, 0, readable, writable, append⟩
  let c := { c with opened := file :: c.opened, nextFile := c.nextFile + 1 }
  (number, c.setTask t.id fun t => t.withDescriptor ⟨number, file.id, false⟩)

def closeFor (c : Computer) (id number : Nat) : Computer :=
  match (c.task? id).bind (·.descriptor? number) with
  | none => c
  | some d => (c.setTask id fun t => t.withoutDescriptor number).dropUnused d.file

/-- The process that takes in children without a parent. -/
def orphanage : Nat := 1

end Computer

/-! ### Signals -/

/-- Tells a process of a signal that it has arranged to catch. -/
def Task.note (t : Task) (s : Signal) : Task :=
  { t with
    caught := if t.caught.contains s then t.caught else t.caught ++ [s]
    interrupted := true }

namespace Computer

/-- Ends a process: what it had open is closed, its children lose their parent, and its own parent is
    told. A process without a parent is forgotten. -/
def finish (c : Computer) (id : Nat) (ending : Ending) : Computer :=
  match c.task? id with
  | none => c
  | some t =>
    let c := c.setTask id fun t => { t with condition := .ended ending, stopped := false, descriptors := [] }
    let c := t.descriptors.foldl (fun c d => c.dropUnused d.file) c
    let isForgotten (u : Task) : Bool :=
      !u.isRunning && (u.parent = id || (u.id = id && u.parent = orphanage))
    { c with tasks := (c.tasks.filter fun u => !isForgotten u).map fun u =>
        if u.parent = id then { u with parent := orphanage }
        else if u.id = t.parent && u.disposition .child = .caught then u.note .child
        else u }

/-- Lets a signal take effect on a process. -/
def deliver (c : Computer) (id : Nat) (s : Signal) : Computer :=
  match c.task? id with
  | none => c
  | some t =>
    if !t.isRunning then c
    else if s = .kill then c.finish id (.signalled s)
    else if s = .stop then c.setTask id fun t => { t with stopped := true }
    else
      let c := if s = .resume then c.setTask id fun t => { t with stopped := false } else c
      match t.disposition s with
      | .ignored => c
      | .caught => c.setTask id fun t => t.note s
      | .standard =>
        match s.defaultAction with
        | .terminate | .dumpCore => c.finish id (.signalled s)
        | .stop => c.setTask id fun t => { t with stopped := true }
        | .ignore | .resume => c

end Computer

end KernelAudit.Machine
