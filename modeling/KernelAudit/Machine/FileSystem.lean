import KernelAudit.Machine.Errno
import KernelAudit.Machine.Octets

/-! A tree of files. Directories hold names of nodes; a path is followed name by name from the root or
    from another directory. Nodes are never given up, so a file that has lost its name can still be
    read by who has it open. -/

namespace KernelAudit.Machine

/-- Files that are no storage. A stream stands for what the process has open under that number. -/
inductive Device where
  | null
  | zero
  | full
  | random
  | terminal
  | stream (descriptor : Nat)
  deriving DecidableEq, Repr

/-- What a node is. The entries of a directory are kept in the order in which they were made. -/
inductive Body where
  | directory (parent : Nat) (entries : List (String × Nat))
  | file (content : ByteArray)
  | program (name : String)
  | device (device : Device)
  | link (target : String)

structure Node where
  body : Body
  /-- The permissions, three bits each for the owner, the group and the others. -/
  mode : Nat
  /-- The time of the last change, in microseconds. -/
  modified : Nat

structure FileSystem where
  nodes : Array Node

namespace Body

def isDirectory : Body → Bool
  | directory .. => true
  | _ => false

end Body

namespace Node

def directory (parent : Nat) (entries : List (String × Nat)) : Node := ⟨.directory parent entries, 0o755, 0⟩

/-- Whether anybody may run the node as a program. -/
def isExecutable (n : Node) : Bool := n.mode &&& 0o111 ≠ 0

end Node

namespace FileSystem

/-- The number of the root. -/
def root : Nat := 0

/-- The tree of an empty root. -/
def bare : FileSystem := ⟨#[.directory root []]⟩

def node? (fs : FileSystem) (id : Nat) : Option Node := fs.nodes[id]?

def body? (fs : FileSystem) (id : Nat) : Option Body := (fs.node? id).map (·.body)

def isDirectory (fs : FileSystem) (id : Nat) : Bool := (fs.body? id).any (·.isDirectory)

def setNode (fs : FileSystem) (id : Nat) (f : Node → Node) : FileSystem := ⟨fs.nodes.modify id f⟩

/-! ### Paths -/

/-- The names in a path. -/
def steps (path : String) : List String := ((path.toList.splitOn '/').map String.ofList).filter (· ≠ "")

def isAbsolute (path : String) : Bool := path.startsWith "/"

/-- Whether a path asks for a directory by a slash at its end. -/
def endsInSlash (path : String) : Bool := path.endsWith "/"

def nameLimit : Nat := 255
def pathLimit : Nat := 4095

/-- How many links one path may lead through. -/
def linkLimit : Nat := 40

/-- More steps than any path can take with all its links. -/
def stepLimit : Nat := 100000

/-- Follows names from a directory to a node. A link at the very end is followed on demand. -/
def walk (fs : FileSystem) (follow : Bool) : (fuel links : Nat) → Nat → List String → Except Errno Nat
  | _, _, here, [] => .ok here
  | 0, _, _, _ => .error .tooManyLinks
  | fuel + 1, links, here, step :: rest =>
    match fs.body? here with
    | some (.directory parent entries) =>
      if step = "." then walk fs follow fuel links here rest
      else if step = ".." then walk fs follow fuel links parent rest
      else if nameLimit < step.length then .error .tooLongName
      else match entries.lookup step with
        | none => .error .noEntry
        | some next =>
          match fs.body? next with
          | some (.link target) =>
            if rest.isEmpty && !follow then .ok next
            else match links with
              | 0 => .error .tooManyLinks
              | links + 1 =>
                walk fs follow fuel links (if isAbsolute target then root else here) (steps target ++ rest)
          | _ => walk fs follow fuel links next rest
    | _ => .error .notDirectory

/-- The start of a path that is taken from a directory. -/
def start (here : Nat) (path : String) : Nat := if isAbsolute path then root else here

def checkPath (path : String) : Except Errno Unit :=
  if path.isEmpty then .error .noEntry
  else if pathLimit < path.length then .error .tooLongName
  else .ok ()

/-- The node of a path. -/
def find (fs : FileSystem) (here : Nat) (path : String) (follow : Bool) : Except Errno Nat := do
  checkPath path
  let id ← fs.walk (follow || endsInSlash path) stepLimit linkLimit (start here path) (steps path)
  if endsInSlash path && !fs.isDirectory id then .error .notDirectory else .ok id

/-- A place for an entry: a directory and a name. A path that ends in a dot, or has no name, is none. -/
structure Place where
  directory : Nat
  name : String

/-- The place that a path describes; nothing need be there yet. -/
def place? (fs : FileSystem) (here : Nat) (path : String) : Except Errno (Option Place) := do
  checkPath path
  let names := steps path
  match names.getLast? with
  | none => .ok none
  | some name =>
    let directory ← fs.walk true stepLimit linkLimit (start here path) names.dropLast
    if !fs.isDirectory directory then .error .notDirectory
    else if name = "." || name = ".." then .ok none
    else if nameLimit < name.length then .error .tooLongName
    else .ok (some ⟨directory, name⟩)

def entries (fs : FileSystem) (id : Nat) : List (String × Nat) :=
  match fs.body? id with
  | some (.directory _ entries) => entries
  | _ => []

def entry? (fs : FileSystem) (p : Place) : Option Nat := (fs.entries p.directory).lookup p.name

/-! ### Changes -/

def setEntries (fs : FileSystem) (id : Nat) (f : List (String × Nat) → List (String × Nat)) :
    FileSystem :=
  fs.setNode id fun node =>
    match node.body with
    | .directory parent entries => { node with body := .directory parent (f entries) }
    | _ => node

/-- Gives a node a name. -/
def enter (fs : FileSystem) (p : Place) (id : Nat) : FileSystem :=
  fs.setEntries p.directory (· ++ [(p.name, id)])

/-- Takes a name away. -/
def leave (fs : FileSystem) (p : Place) : FileSystem :=
  fs.setEntries p.directory (·.filter (·.1 ≠ p.name))

/-- Adds a node under a name that is free, and gives its number. -/
def add (fs : FileSystem) (p : Place) (node : Node) : Nat × FileSystem :=
  let id := fs.nodes.size
  (id, (⟨fs.nodes.push node⟩ : FileSystem).enter p id)

def content (fs : FileSystem) (id : Nat) : ByteArray :=
  match fs.body? id with
  | some (.file content) => content
  | _ => .empty

def setContent (fs : FileSystem) (id : Nat) (now : Nat) (content : ByteArray) : FileSystem :=
  fs.setNode id fun node =>
    match node.body with
    | .file _ => { node with body := .file content, modified := now }
    | _ => node

/-- Puts a text into a file at some place; a gap before it is filled with zeros. -/
def writeAt (fs : FileSystem) (id : Nat) (now : Nat) (offset : Nat) (s : String) : FileSystem :=
  fs.setNode id fun node =>
    match node.body with
    | .file content =>
      let length := content.size
      let content :=
        if offset = length then Octets.appendTo content s
        else
          let front := if offset < length then content.extract 0 offset
            else (List.replicate (offset - length) 0).foldl ByteArray.push content
          let tail := content.extract (offset + s.length) length
          (Octets.appendTo front s) ++ tail
      { node with body := .file content, modified := now }
    | _ => node

/-- How a file is opened. -/
structure Opening where
  read : Bool
  write : Bool
  append : Bool
  /-- Makes the file if there is none. -/
  create : Bool
  /-- Fails if there is one. -/
  exclusive : Bool
  /-- Empties the file. -/
  truncate : Bool
  deriving DecidableEq, Repr

namespace Opening

def reading : Opening := ⟨true, false, false, false, false, false⟩
def writing : Opening := ⟨false, true, false, true, false, true⟩
def appending : Opening := ⟨false, true, true, true, false, false⟩
def both : Opening := ⟨true, true, false, true, false, false⟩
def making : Opening := ⟨false, true, false, true, true, false⟩

end Opening

/-- Opens the node of a number for what is asked. -/
def openNode (fs : FileSystem) (now : Nat) (how : Opening) (id : Nat) : Except Errno (Nat × FileSystem) :=
  match fs.body? id with
  | none => .error .noEntry
  | some (.directory ..) => if how.write || how.create then .error .isDirectory else .ok (id, fs)
  | some (.device .terminal) => .error .noDevice
  | some (.file _) => .ok (id, if how.truncate then fs.setContent id now .empty else fs)
  | some _ => .ok (id, fs)

/-- Opens a path; the number of the node, and the tree afterwards. -/
def openPath (fs : FileSystem) (here : Nat) (now : Nat) (path : String) (how : Opening) (mode : Nat) :
    Except Errno (Nat × FileSystem) :=
  match fs.find here path true with
  | .ok id =>
    if how.create && how.exclusive then .error .alreadyThere
    else if how.create && endsInSlash path then .error .isDirectory
    else fs.openNode now how id
  | .error e =>
    if how.create then do
      match ← fs.place? here path with
      | none => .error e
      | some place =>
        if endsInSlash path then .error .isDirectory
        else if (fs.entry? place).isSome then .error e
        else return fs.add place ⟨.file .empty, mode, now⟩
    else .error e

def makeDirectory (fs : FileSystem) (here now : Nat) (path : String) (mode : Nat) :
    Except Errno FileSystem := do
  match ← fs.place? here path with
  | none => .error .alreadyThere
  | some place =>
    if (fs.entry? place).isSome then .error .alreadyThere
    else return (fs.add place ⟨.directory place.directory [], mode, now⟩).2

/-- Takes away the name of a node that is no directory. -/
def unlink (fs : FileSystem) (here : Nat) (path : String) : Except Errno FileSystem := do
  match ← fs.place? here path with
  | none => .error .isDirectory
  | some place =>
    match fs.entry? place with
    | none => .error .noEntry
    | some id =>
      if fs.isDirectory id then .error .isDirectory
      else if endsInSlash path then .error .notDirectory
      else return fs.leave place

def removeDirectory (fs : FileSystem) (here : Nat) (path : String) : Except Errno FileSystem := do
  match ← fs.place? here path with
  | none => .error (if (steps path).getLast? = some "." then .invalid else .notEmpty)
  | some place =>
    match fs.entry? place with
    | none => .error .noEntry
    | some id =>
      if !fs.isDirectory id then .error .notDirectory
      else if !(fs.entries id).isEmpty then .error .notEmpty
      else return fs.leave place

/-- Whether a directory lies in another one, or is the same. -/
def isWithin (fs : FileSystem) (outer : Nat) : (fuel : Nat) → Nat → Bool
  | 0, _ => false
  | fuel + 1, id =>
    id = outer ||
      match fs.body? id with
      | some (.directory parent _) => parent ≠ id && isWithin fs outer fuel parent
      | _ => false

/-- Gives a node another name, which may have been that of another node. -/
def rename (fs : FileSystem) (here : Nat) (source target : String) : Except Errno FileSystem := do
  match ← fs.place? here source, ← fs.place? here target with
  | some old, some new =>
    match fs.entry? old with
    | none => .error .noEntry
    | some id =>
      let moved (fs : FileSystem) : FileSystem :=
        let fs := ((fs.leave old).leave new).enter new id
        fs.setNode id fun node =>
          match node.body with
          | .directory _ entries => { node with body := .directory new.directory entries }
          | _ => node
      if fs.isDirectory id && fs.isWithin id fs.nodes.size new.directory then .error .invalid
      else match fs.entry? new with
        | none =>
          if endsInSlash target && !fs.isDirectory id then .error .notDirectory else return moved fs
        | some there =>
          if there = id then return fs
          else match fs.isDirectory id, fs.isDirectory there with
            | true, false => .error .notDirectory
            | false, true => .error .isDirectory
            | true, true => if (fs.entries there).isEmpty then return moved fs else .error .notEmpty
            | false, false => return moved fs
  | _, _ => .error .invalid

/-- Gives a node one more name. -/
def linkTo (fs : FileSystem) (here : Nat) (source target : String) : Except Errno FileSystem := do
  let id ← fs.find here source false
  if fs.isDirectory id then .error .notPermitted
  else match ← fs.place? here target with
    | none => .error .alreadyThere
    | some place =>
      if (fs.entry? place).isSome then .error .alreadyThere
      else if endsInSlash target then .error .noEntry
      else return fs.enter place id

/-- Makes a node that stands for another path. -/
def makeLink (fs : FileSystem) (here now : Nat) (target path : String) : Except Errno FileSystem := do
  match ← fs.place? here path with
  | none => .error .alreadyThere
  | some place =>
    if (fs.entry? place).isSome then .error .alreadyThere
    else if endsInSlash path then .error .noEntry
    else return (fs.add place ⟨.link target, 0o777, now⟩).2

/-- The path of a directory from the root. -/
def pathOf (fs : FileSystem) : (fuel : Nat) → Nat → List String
  | 0, _ => []
  | fuel + 1, id =>
    match fs.body? id with
    | some (.directory parent _) =>
      if id = root then []
      else
        match (fs.entries parent).find? (·.2 = id) with
        | some (name, _) => fs.pathOf fuel parent ++ [name]
        | none => []
    | _ => []

def absolutePath (fs : FileSystem) (id : Nat) : String :=
  "/" ++ "/".intercalate (fs.pathOf fs.nodes.size id)

end FileSystem

end KernelAudit.Machine
