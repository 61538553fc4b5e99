import KernelAudit.Machine.Task

/-! How a machine answers requests. A request that cannot be answered yet has no answer, and is tried
    again when something has changed. -/

namespace KernelAudit.Machine

namespace Computer

/-- How many bytes a pipe holds. -/
def pipeSize : Nat := 65536

/-- An answer, or none as yet. -/
abbrev Reply (α : Type) := Option (α × Computer)

def refuse (c : Computer) (e : Errno) : Reply (Except Errno α) := some (.error e, c)

/-- The answer to a request that changes the tree of files. -/
def changed (c : Computer) : Except Errno FileSystem → Reply (Except Errno Unit)
  | .error e => c.refuse e
  | .ok files => some (.ok (), { c with files })

/-! ### Opening -/

/-- The number of the descriptor that a path stands for, if it is the path of a stream. -/
def streamNumber? (c : Computer) (node : Nat) : Option Nat :=
  match c.files.body? node with
  | some (.device (.stream n)) => some n
  | _ => none

def openPath (c : Computer) (t : Task) (path : String) (how : FileSystem.Opening) :
    Reply (Except Errno Nat) :=
  if path.toList.contains '\x00' then c.refuse .invalid
  else match c.files.openPath t.directory c.clock path how (0o666 &&& (0o777 ^^^ t.mask)) with
    | .error e => c.refuse e
    | .ok (node, files) =>
      let c := { c with files }
      match c.streamNumber? node with
      | none =>
        let (number, c) := c.openFor t (.node node) how.read how.write how.append
        some (.ok number, c)
      | some n =>
        match c.opened? t n with
        | none => c.refuse .noEntry
        | some file =>
          let (number, c) := c.openFor t file.object how.read how.write how.append
          some (.ok number, c)

def duplicateFor (c : Computer) (t : Task) (number target : Nat) (setAside : Bool) : Computer :=
  match t.descriptor? number with
  | none => c
  | some d =>
    let former := t.descriptor? target
    let c := c.setTask t.id fun t => t.withDescriptor ⟨target, d.file, setAside⟩
    match former with
    | none => c
    | some former => c.dropUnused former.file

/-! ### Reading and writing -/

/-- Some bytes of an array as a text. -/
def slice (bytes : ByteArray) (start count : Nat) : String :=
  Octets.ofArray (bytes.extract start (start + count))

def readPipe (c : Computer) (p : Pipe) (count : Nat) : Reply (Except Errno String) :=
  let available := p.bytes.size - p.taken
  if available = 0 then
    if c.hasWriter p.id then none else some (.ok "", c)
  else
    let n := min count available
    let text := slice p.bytes p.taken n
    let left : Pipe :=
      if n = available then { p with bytes := .empty, taken := 0 } else { p with taken := p.taken + n }
    some (.ok text, c.setPipe p.id fun _ => left)

/-- What a device gives to a reader. -/
def deviceText (d : Device) (count : Nat) : String :=
  match d with
  | .zero | .full | .random => String.ofList (List.replicate count '\x00')
  | _ => ""

def readNode (c : Computer) (file : OpenFile) (node count : Nat) : Reply (Except Errno String) :=
  match c.files.body? node with
  | some (.file content) =>
    let text := slice content file.offset count
    some (.ok text, c.setFile file.id fun f => { f with offset := f.offset + text.length })
  | some (.directory ..) => c.refuse .isDirectory
  | some (.device d) => some (.ok (deviceText d count), c)
  | _ => some (.ok "", c)

def readFrom (c : Computer) (t : Task) (number count : Nat) : Reply (Except Errno String) :=
  match c.opened? t number with
  | none => c.refuse .badDescriptor
  | some file =>
    if !file.readable then c.refuse .badDescriptor
    else match file.object with
      | .node node => c.readNode file node count
      | .sink _ => c.refuse .badDescriptor
      | .source pipe =>
        match c.pipe? pipe with
        | none => some (.ok "", c)
        | some p =>
          match c.readPipe p count with
          | none => if t.interrupted then c.refuse .interrupted else none
          | reply => reply

def writePipe (c : Computer) (t : Task) (p : Pipe) (text : String) : Reply (Except Errno Nat) :=
  if !c.hasReader p then (c.deliver t.id .pipe).refuse .brokenPipe
  else
    let length := text.length
    let room := pipeSize - (p.bytes.size - p.taken)
    if p.drained then
      some (.ok length, c.setPipe p.id fun p => { p with received := text :: p.received })
    -- A short text goes in as a whole or waits.
    else if room = 0 || (length ≤ 4096 && room < length) then none
    else
      let part := if length ≤ room then text else String.ofList (text.toList.take room)
      some (.ok (min length room), c.setPipe p.id fun p => { p with bytes := Octets.appendTo p.bytes part })

def writeNode (c : Computer) (file : OpenFile) (node : Nat) (text : String) : Reply (Except Errno Nat) :=
  match c.files.body? node with
  | some (.file content) =>
    let offset := if file.append then content.size else file.offset
    let length := text.length
    let c := { c with files := c.files.writeAt node c.clock offset text }
    some (.ok length, c.setFile file.id fun f => { f with offset := offset + length })
  | some (.device .full) => c.refuse .noSpace
  | some (.device _) => some (.ok text.length, c)
  | _ => c.refuse .badDescriptor

def writeTo (c : Computer) (t : Task) (number : Nat) (text : String) : Reply (Except Errno Nat) :=
  match c.opened? t number with
  | none => c.refuse .badDescriptor
  | some file =>
    if !file.writable then c.refuse .badDescriptor
    else match file.object with
      | .node node => c.writeNode file node text
      | .source _ => c.refuse .badDescriptor
      | .sink pipe =>
        match c.pipe? pipe with
        | none => c.refuse .brokenPipe
        | some p => c.writePipe t p text

/-- A step back in a file; in a pipe there is none. -/
def stepBack (c : Computer) (t : Task) (number count : Nat) : Reply (Except Errno Unit) :=
  match c.opened? t number with
  | none => c.refuse .badDescriptor
  | some file =>
    match file.object with
    | .node _ => some (.ok (), c.setFile file.id fun f => { f with offset := f.offset - count })
    | _ => c.refuse .badSeek

def makePipe (c : Computer) (t : Task) : (Nat × Nat) × Computer :=
  let id := c.nextFile
  let c := { c with pipes := ⟨id, .empty, 0, false, []⟩ :: c.pipes, nextFile := id + 1 }
  let (source, c) := c.openFor t (.source id) true false false
  match c.task? t.id with
  | none => ((source, source), c)
  | some t =>
    let (sink, c) := c.openFor t (.sink id) false true false
    ((source, sink), c)

/-! ### Looking -/

def kindOf : Body → Kind
  | .directory .. => .directory
  | .file _ | .program _ => .regular
  | .device _ => .characters
  | .link _ => .link

/-- The size that a program has, as far as anybody asks. -/
def programSize : Nat := 125640

def statusOfNode (c : Computer) (id : Nat) : Except Errno Status :=
  match c.files.node? id with
  | none => .error .noEntry
  | some node =>
    let size := match node.body with
      | .file content => content.size
      | .directory .. => 4096
      | .program _ => programSize
      | .link target => target.length
      | .device _ => 0
    let program := match node.body with
      | .program name => some name
      | _ => none
    .ok ⟨id, kindOf node.body, size, node.mode, node.modified, program⟩

def statusOfObject (c : Computer) : Object → Except Errno Status
  | .node id => c.statusOfNode id
  | .source id | .sink id => .ok ⟨id, .queue, 0, 0o600, 0, none⟩

def statusOfPath (c : Computer) (t : Task) (path : String) (follow : Bool) : Except Errno Status := do
  let id ← c.files.find t.directory path follow
  match c.streamNumber? id with
  | some n =>
    match c.opened? t n with
    | some file => c.statusOfObject file.object
    | none => .error .noEntry
  | none => c.statusOfNode id

/-! ### Children and signals -/

def awaitFor (c : Computer) (t : Task) (child : Option Nat) (block : Bool) : Reply Awaited :=
  let isWanted (u : Task) : Bool := u.parent = t.id && (child.isNone || child = some u.id)
  let ended := c.tasks.findSome? fun u =>
    match u.condition with
    | .ended ending => if isWanted u then some (u.id, ending) else none
    | .running _ => none
  match ended with
  | some (id, ending) => some (.ended id ending, { c with tasks := c.tasks.filter (·.id ≠ id) })
  | none =>
    if !c.tasks.any isWanted then some (.noChild, c)
    else if !block then some (.stillRunning, c)
    else if t.interrupted then some (.interrupted, c)
    else none

/-- Sends a signal; number 0 only asks whether there is somebody. -/
def sendFrom (c : Computer) (t : Task) (addressee : Addressee) (s : Signal) : Reply (Except Errno Unit) :=
  let everybody : List Nat := c.tasks.map (·.id)
  let addressees := match addressee with
    | .process id => everybody.filter (· = id)
    | .ownGroup => everybody
    | .everybody => everybody.filter (· ≠ t.id)
  if addressees.isEmpty then c.refuse .noProcess
  else if Signal.last < s.number then c.refuse .invalid
  else if s.number = 0 then some (.ok (), c)
  else some (.ok (), addressees.foldl (fun c id => c.deliver id s) c)

def arrangeFor (c : Computer) (t : Task) (s : Signal) (d : Disposition) : Computer :=
  c.setTask t.id fun t => { t with dispositions := (s, d) :: t.dispositions.filter (·.1 ≠ s) }

def renewTask (c : Computer) (t : Task) : Computer :=
  let dispositions := t.dispositions.filter (·.2 = .ignored)
  let leftOver := t.descriptors.filter (·.setAside)
  let c := c.setTask t.id fun t => { t with dispositions, caught := [] }
  leftOver.foldl (fun c d => c.closeFor t.id d.number) c

/-! ### All requests -/

/-- The answer to a request of a process. -/
def answer (c : Computer) (t : Task) : (request : Call) → Reply request.Answer
  | .work cost => some ((), { c with clock := c.clock + cost })
  | .clock => some (c.clock, c)
  | .sleepUntil time =>
    if time ≤ c.clock then some (true, c) else if t.interrupted then some (false, c) else none
  | .ownId => some (t.id, c)
  | .parentId => some (t.parent, c)
  | .openFile path how => c.openPath t path how
  | .close number =>
    if (t.descriptor? number).isSome then some (.ok (), c.closeFor t.id number) else c.refuse .badDescriptor
  | .duplicate number least =>
    if (t.descriptor? number).isSome then
      let target := t.freeNumber least
      some (.ok target, c.duplicateFor t number target (10 ≤ least))
    else c.refuse .badDescriptor
  | .duplicateTo number target =>
    if (t.descriptor? number).isSome then some (.ok (), c.duplicateFor t number target false)
    else c.refuse .badDescriptor
  | .read number count => c.readFrom t number count
  | .unread number count => c.stepBack t number count
  | .write number text => c.writeTo t number text
  | .pipe => some (c.makePipe t)
  | .status path follow => some (c.statusOfPath t path follow, c)
  | .statusOf number =>
    match c.opened? t number with
    | some file => some (c.statusOfObject file.object, c)
    | none => c.refuse .badDescriptor
  | .list path =>
    match c.files.find t.directory path true with
    | .error e => c.refuse e
    | .ok id =>
      if c.files.isDirectory id then some (.ok ((c.files.entries id).map (·.1)), c)
      else c.refuse .notDirectory
  | .linkTarget path =>
    match c.files.find t.directory path false with
    | .error e => c.refuse e
    | .ok id =>
      match c.files.body? id with
      | some (.link target) => some (.ok target, c)
      | _ => c.refuse .invalid
  | .workingDirectory => some (c.files.absolutePath t.directory, c)
  | .changeDirectory path =>
    match c.files.find t.directory path true with
    | .error e => c.refuse e
    | .ok id =>
      if c.files.isDirectory id then some (.ok (), c.setTask t.id fun t => { t with directory := id })
      else c.refuse .notDirectory
  | .makeDirectory path mode =>
    c.changed (c.files.makeDirectory t.directory c.clock path (mode &&& (0o777 ^^^ t.mask)))
  | .removeDirectory path => c.changed (c.files.removeDirectory t.directory path)
  | .unlink path => c.changed (c.files.unlink t.directory path)
  | .rename source target => c.changed (c.files.rename t.directory source target)
  | .makeLink target path => c.changed (c.files.makeLink t.directory c.clock target path)
  | .linkTo source target => c.changed (c.files.linkTo t.directory source target)
  | .setMode path mode =>
    c.changed ((c.files.find t.directory path true).map fun id => c.files.setNode id ({ · with mode }))
  | .touch path =>
    c.changed ((c.files.find t.directory path true).map fun id =>
      c.files.setNode id ({ · with modified := c.clock }))
  | .setMask mask => some (t.mask, c.setTask t.id fun t => { t with mask := mask.getD t.mask })
  | .await child block => c.awaitFor t child block
  | .send addressee signal => c.sendFrom t addressee signal
  | .arrange signal disposition => some ((), c.arrangeFor t signal disposition)
  | .disposition signal => some (t.disposition signal, c)
  | .caught => some (t.caught, c.setTask t.id fun t => { t with caught := [] })
  | .renew => some ((), c.renewTask t)

end Computer

end KernelAudit.Machine
