import KernelAudit.Probe.Site
import KernelAudit.Program.System

/-! A machine that is a value: its files, and what has been printed. Its clock stands still, its
    randomness is always the same, and its standard output takes everything. -/

namespace KernelAudit

open Machine Text

structure World where
  site : Probe.Site
  stdout : String
  stderr : String

namespace World

/-- The machine before anything has happened, with the given files in the current directory. -/
def withFiles (files : List (String × ByteArray)) : World :=
  let site := Probe.Site.fresh
  let files := files.foldl (fun fs (name, content) =>
    (fs.add ⟨site.directory, Octets.ofText name⟩ ⟨.file content, 0o644, 0⟩).2) site.files
  ⟨{ site with files }, "", ""⟩

/-- The machine on which programs are told more of their surroundings. -/
def tell (w : World) (more : List (String × String)) : World :=
  { w with site := { w.site with environment := w.site.environment ++ more } }

def host : Host (StateM World) where
  hostname := pure (some "localhost")
  timestamp := pure 0
  clock := pure 0
  entropy := pure (.replicate 8 0)

def print (s : String) : StateM World Unit := modify fun w => { w with stdout := w.stdout ++ s }

def printError (s : String) : StateM World Unit := modify fun w => { w with stderr := w.stderr ++ s }

/-! ### Files -/

def hasZero : String := "file name contained an unexpected NUL byte"

/-- A path as the machine takes it. -/
def path? (path : Raw) : Except String String :=
  let path := Octets.ofRaw path
  if path.toList.contains '\x00' then .error hasZero else .ok path

/-- The content of a file, or why there is none. -/
def read (w : World) (path : Raw) : Except String ByteArray := do
  let path ← path? path
  let (id, files) ← (w.site.files.openPath w.site.directory 0 path .reading 0).mapError Errno.reason
  match files.body? id with
  | some (.file content) => .ok content
  | some (.directory ..) => .error (Errno.reason .isDirectory)
  | _ => .ok .empty

/-- The permissions of a new file. -/
def fileMode : Nat := 0o644

/-- Gives a file a content. What is written to a stream is printed. -/
def write (w : World) (path : Raw) (content : String) : Except String World := do
  let path ← path? path
  let (id, files) ← (w.site.files.openPath w.site.directory 0 path .writing fileMode).mapError Errno.reason
  let w := { w with site := { w.site with files } }
  match files.body? id with
  | some (.device (.stream 1)) => .ok { w with stdout := w.stdout ++ content }
  | some (.device (.stream 2)) => .ok { w with stderr := w.stderr ++ content }
  | some (.device .full) => if content.isEmpty then .ok w else .error (Errno.reason .noSpace)
  | _ => .ok { w with site := { w.site with files := files.setContent id 0 content.toUTF8 } }

def system : System (StateM World) where
  host := host
  kernels := Backend.kernels
  launch r := do
    let w ← get
    match w.site.launch r with
    | .error reason => return .error reason
    | .ok (outcome, files) =>
      set { w with site := { w.site with files } }
      return .ok outcome
  readFile path := do return (← get).read path
  writeFile path content := do
    let w ← get
    match w.write path content with
    | .error reason => return .error reason
    | .ok w =>
      set w
      return .ok ()
  print s := ExceptT.lift (print s)
  printError s := ExceptT.lift (printError s)
  sink := ⟨fun c => ExceptT.lift (print (String.singleton c)), pure ()⟩

end World

end KernelAudit
