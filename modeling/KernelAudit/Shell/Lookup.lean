import KernelAudit.Shell.Basic

/-! What a name stands for when it is called as a command: a function, a command of the shell, or a
    program somewhere on the search path. -/

namespace KernelAudit.Shell

open Machine

/-- The commands of a shell that are not special. -/
def plainCommands : List String :=
  ["[", "alias", "bg", "cd", "chdir", "command", "echo", "false", "fg", "getopts", "hash", "jobs", "kill",
    "printf", "pwd", "read", "test", "true", "type", "ulimit", "umask", "unalias", "wait"]

def isBuiltin (name : String) : Bool := specialCommands.contains name || plainCommands.contains name

/-- The commands whose words are assignments where they look like it. -/
def assigningCommands : List String := ["alias", "export", "local", "readonly"]

/-- What a name stands for. -/
inductive Meaning where
  | function (body : Command)
  | builtin
  /-- A program, which lies under the first of the paths that works. -/
  | program (paths : List String)
  | missing (reason : Errno)

/-- The search path where none is set. -/
def defaultPath : String := "/usr/local/sbin:/usr/local/bin:/usr/sbin:/usr/bin:/sbin:/bin"

namespace State

/-- The search path. -/
def searchPath (s : State) : String := (s.value? "PATH").getD ""

/-- The paths under which a program may lie. -/
def candidates (searchPath name : String) : List String :=
  (searchPath.splitOn ":").map fun directory => if directory.isEmpty then name else s!"{directory}/{name}"

end State

/-- Why something cannot be found or started. -/
def startMessage (e : Errno) : String :=
  if e = .noEntry || e = .notDirectory then "not found" else e.message

/-- The status of a command that cannot be started. -/
def startStatus (e : Errno) : Nat :=
  match e with
  | .noEntry | .notDirectory | .tooManyLinks | .tooLongName => 127
  | _ => 126

namespace Session

/-- The paths from the first one on at which there is a file; otherwise a reason why there is none. -/
def firstFile : Errno → List String → Session (Except Errno (List String))
  | e, [] => pure (.error e)
  | e, path :: rest => do
    match ← ask (.status path true) with
    | .ok status => if status.kind = .regular then return .ok (path :: rest) else firstFile .denied rest
    | .error .noEntry | .error .notDirectory => firstFile e rest
    | .error reason => firstFile reason rest

/-- Looks a program up. One that is found on the usual search path is remembered. -/
def findProgram (searchPath name : String) : Session Meaning := do
  if name.toList.contains '/' then return .program [name]
  let s ← get
  let isUsual := searchPath = s.searchPath
  if isUsual then
    if let some path := s.known.lookup name then return .program [path]
  match ← firstFile .noEntry (State.candidates searchPath name) with
  | .error e => return .missing e
  | .ok paths =>
    if isUsual then
      if let some path := paths.head? then modify fun s => { s with known := s.known ++ [(name, path)] }
    return .program paths

/-- Looks a name up. -/
def find (mayBeFunction : Bool) (searchPath name : String) : Session Meaning := do
  let s ← get
  match if mayBeFunction then s.functions.lookup name else none with
  | some body => return .function body
  | none => if isBuiltin name then return .builtin else findProgram searchPath name

end Session

end KernelAudit.Shell
