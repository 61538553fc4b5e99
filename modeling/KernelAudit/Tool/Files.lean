import KernelAudit.Shell.Builtin.Places
import KernelAudit.Tool.Streams

/-! Tools that look at files and change where they are. -/

namespace KernelAudit.Tool

open Machine Action

/-! ### Paths -/

/-- A path without the slashes at its end; a path of slashes is one slash. -/
def trimSlashes (path : String) : String :=
  match path.toList.reverse.dropWhile (· = '/') with
  | [] => if path.isEmpty then "" else "/"
  | cs => String.ofList cs.reverse

/-- The last name in a path. -/
def lastName (path : String) : String :=
  let path := trimSlashes path
  if path = "/" then path else ((path.splitOn "/").getLast?).getD ""

/-- What is before the last name in a path. -/
def directoryName (path : String) : String :=
  let path := trimSlashes path
  let front := path.toList.reverse.dropWhile (· ≠ '/')
  if front.isEmpty then "." else trimSlashes (String.ofList front.reverse)

def joinPath (directory name : String) : String :=
  if directory.endsWith "/" then directory ++ name else directory ++ "/" ++ name

def withoutSuffix (suffix name : String) : String :=
  if name ≠ suffix && name.endsWith suffix then String.ofList (name.toList.take (name.length - suffix.length)) else name

def basename (i : Invocation) : Action Nat :=
  withWords i [switch 'a' "multiple", setting 's' "suffix", switch 'z' "zero"] false 1 fun w => do
    let several := w.has 'a' || w.has 's'
    match w.operands with
    | [] => misuse i 1 "missing operand"
    | path :: rest =>
      if several then
        output i (unlines (w.operands.map fun p => withoutSuffix ((w.argument? 's').getD "") (lastName p)))
      else match rest with
        | _ :: extra :: _ => misuse i 1 s!"extra operand '{extra}'"
        | _ => output i (withoutSuffix (rest.headD "") (lastName path) ++ "\n")

def dirname (i : Invocation) : Action Nat :=
  withWords i [switch 'z' "zero"] false 1 fun w =>
    if w.operands.isEmpty then misuse i 1 "missing operand"
    else output i (unlines (w.operands.map directoryName))

def pwd (i : Invocation) : Action Nat := do output i ((← ask .workingDirectory) ++ "\n")

def isDirectory (path : String) : Action Bool := do
  return match ← ask (.status path true) with
    | .ok s => s.kind = .directory
    | .error _ => false

/-! ### Lists -/

/-- The names in a directory in order. -/
def namesIn (path : String) : Action (List String) := do
  return ((← ask (.list path)).toOption.getD []).mergeSort fun a b => decide (a ≤ b)

/-- The mark behind the name of a file of some kind. -/
def kindMark (w : Words) (path : String) : Action String := do
  if !w.has 'p' && !w.has 'F' then return ""
  match ← ask (.status path false) with
  | .error _ => return ""
  | .ok s =>
    if s.kind = .directory then return "/"
    if !w.has 'F' then return ""
    if s.kind = .link then return "@"
    return if s.kind = .regular && s.mode &&& 0o111 ≠ 0 then "*" else ""

def listDirectory (w : Words) (path : String) : Action (List String) := do
  let names ← namesIn path
  let names := if w.has 'a' then ["." , ".."] ++ names
    else if w.has 'A' then names else names.filter fun n => !n.startsWith "."
  return if w.has 'r' then names.reverse else names

def showNames (w : Words) (directory : String) (names : List String) : Action Unit := do
  let lines ← names.mapM fun n => do return n ++ (← kindMark w (joinPath directory n))
  put (unlines lines)

/-- Shows directories, those inside them on demand as well. -/
def showDirectories (w : Words) (titles : Bool) : (fuel : Nat) → (front : String) → List String → Action Unit
  | 0, _, _ => pure ()
  | _, _, [] => pure ()
  | fuel + 1, front, path :: rest => do
    let names ← listDirectory w path
    if titles then put (front ++ path ++ ":\n")
    showNames w path names
    let inner ← if w.has 'R' then
        (names.filter fun n => n ≠ "." && n ≠ "..").filterM fun n => do
          match ← ask (.status (joinPath path n) false) with
          | .ok s => return s.kind = .directory
          | .error _ => return false
      else pure []
    showDirectories w titles fuel "\n" (inner.map (joinPath path) ++ rest)

def ls (i : Invocation) : Action Nat :=
  withWords i [switch 'a' "all", switch 'A' "almost-all", switch '1' "", switch 'd' "directory", switch 'R' "recursive",
    switch 'p' "", switch 'F' "classify", switch 'r' "reverse", switch 'C' "", switch 'x' "", switch 'q' ""] true 2 fun w => do
    let paths := (if w.operands.isEmpty then ["."] else w.operands).mergeSort fun a b => decide (a ≤ b)
    let paths := if w.has 'r' then paths.reverse else paths
    let found ← paths.mapM fun path => do
      match ← ask (.status path true) with
      | .ok s => return some (path, s.kind = .directory && !w.has 'd')
      | .error e => do
        complain i s!"cannot access '{path}': {e.message}"
        return none
    let present := found.filterMap id
    let files := (present.filter fun p => !p.2).map (·.1)
    let directories := (present.filter (·.2)).map (·.1)
    let lines ← files.mapM fun p => do return p ++ (← kindMark w p)
    put (unlines lines)
    showDirectories w (1 < paths.length || w.has 'R') 100000 (if files.isEmpty then "" else "\n") directories
    return if present.length = found.length then 0 else 2

/-! ### Making and removing -/

/-- The paths that lead to a path, the path itself being the last. -/
def prefixes (path : String) : List String :=
  let names := FileSystem.steps path
  (List.range names.length).map fun n =>
    (if path.startsWith "/" then "/" else "") ++ "/".intercalate (names.take (n + 1))

def mkdir (i : Invocation) : Action Nat :=
  withWords i [switch 'p' "parents", setting 'm' "mode", switch 'v' "verbose"] true 1 fun w =>
    if w.operands.isEmpty then misuse i 1 "missing operand"
    else greatest (fun path => do
      if w.has 'p' then
        let _ ← (prefixes path).dropLast.mapM fun p => ask (.makeDirectory p 0o777)
      match ← ask (.makeDirectory path 0o777) with
      | .ok () => return 0
      | .error e =>
        if w.has 'p' && (← isDirectory path) then return 0
        else failWith i 1 s!"cannot create directory '{path}': {e.message}") w.operands

def rmdir (i : Invocation) : Action Nat :=
  withWords i [switch 'p' "parents", switch 'v' "verbose"] true 1 fun w =>
    if w.operands.isEmpty then misuse i 1 "missing operand"
    else greatest (fun path => do
      match ← ask (.removeDirectory path) with
      | .ok () => return 0
      | .error e => failWith i 1 s!"failed to remove '{path}': {e.message}") w.operands

/-- Removes a file, or a directory with all in it. -/
def removeAll : (fuel : Nat) → String → Action (Except Errno Unit)
  | 0, _ => pure (.error .notEmpty)
  | fuel + 1, path => do
    match ← ask (.status path false) with
    | .error e => return .error e
    | .ok s =>
      if s.kind ≠ .directory then ask (.unlink path)
      else
        let _ ← (← namesIn path).mapM fun name => removeAll fuel (joinPath path name)
        ask (.removeDirectory path)

def rm (i : Invocation) : Action Nat :=
  withWords i [switch 'f' "force", switch 'r' "recursive", switch 'R' "", switch 'd' "dir", switch 'v' "verbose",
    switch 'i' ""] true 1 fun w =>
    if w.operands.isEmpty && !w.has 'f' then misuse i 1 "missing operand"
    else greatest (fun path => do
      let isTree := w.has 'r' || w.has 'R'
      let done ← match ← ask (.status path false) with
        | .error e => pure (.error e)
        | .ok s =>
          if s.kind ≠ .directory then ask (.unlink path)
          else if isTree then removeAll 10000 path
          else if w.has 'd' then ask (.removeDirectory path)
          else pure (.error .isDirectory)
      match done with
      | .ok () => return 0
      | .error e =>
        if w.has 'f' && (e = .noEntry || e = .notDirectory) then return 0
        else failWith i 1 s!"cannot remove '{path}': {e.message}") w.operands

def touch (i : Invocation) : Action Nat :=
  withWords i [switch 'c' "no-create", switch 'a' "", switch 'm' "", setting 'd' "date", setting 't' "", setting 'r' "reference"]
    true 1 fun w =>
    if w.operands.isEmpty then misuse i 1 "missing file operand"
    else greatest (fun path => do
      match ← ask (.touch path) with
      | .ok () => return 0
      | .error .noEntry =>
        if w.has 'c' then return 0
        match ← ask (.openFile path .appending) with
        | .ok file => do
          let _ ← ask (.close file)
          return 0
        | .error e => failWith i 1 s!"cannot touch '{path}': {e.message}"
      | .error e => failWith i 1 s!"cannot touch '{path}': {e.message}") w.operands

def chmod (i : Invocation) : Action Nat :=
  withWords i [switch 'R' "recursive", switch 'f' "silent", switch 'v' "verbose"] false 1 fun w =>
    match w.operands with
    | [] => misuse i 1 "missing operand"
    | [mode] => misuse i 1 s!"missing operand after '{mode}'"
    | mode :: paths => do
      let isNumber : Bool := mode.front.isDigit
      let valid : Bool := if isNumber then (Shell.octal? mode).isSome else ((⟨0⟩ : Shell.Permissions).apply mode).isSome
      if !valid then misuse i 1 s!"invalid mode: '{mode}'"
      else greatest (fun path => do
        match ← ask (.status path true) with
        | .error e => failWith i 1 s!"cannot access '{path}': {e.message}"
        | .ok s =>
          let bits := if isNumber then Shell.octal? mode
            else ((⟨s.mode⟩ : Shell.Permissions).apply mode).map Shell.Permissions.bits
          let _ ← ask (.setMode path (bits.getD s.mode))
          return 0) paths

/-! ### Copies and moves -/

/-- Where something goes that is put at a path: into the directory there, if there is one. -/
def targetOf (source target : String) : Action String := do
  return if ← isDirectory target then joinPath target (lastName source) else target

/-- Does something for each source with its target, when the words name both. -/
def withTargets (i : Invocation) (missing : String) (operands : List String)
    (act : String → String → Action Nat) : Action Nat :=
  match operands with
  | [] => misuse i 1 s!"missing {missing}file operand"
  | [one] => misuse i 1 s!"missing destination file operand after '{one}'"
  | [source, target] => do act source (← targetOf source target)
  | several => do
    let target := several.getLast?.getD ""
    if ← isDirectory target then greatest (fun source => do act source (← targetOf source target)) several.dropLast
    else failWith i 1 s!"target '{target}': No such file or directory"

/-- Copies a file, or a directory with all in it. -/
def copyAll (i : Invocation) (isTree : Bool) : (fuel : Nat) → String → String → Action Nat
  | 0, _, _ => pure 1
  | fuel + 1, source, target => do
    match ← ask (.status source true) with
    | .error e => failWith i 1 s!"cannot stat '{source}': {e.message}"
    | .ok s =>
      if s.kind = .directory then
        if !isTree then failWith i 1 s!"-r not specified; omitting directory '{source}'"
        else
          let _ ← ask (.makeDirectory target 0o777)
          greatest (fun name => copyAll i isTree fuel (joinPath source name) (joinPath target name)) (← namesIn source)
      else
        let isSame : Bool := match ← ask (.status target true) with
          | .ok t => t.node = s.node
          | .error _ => false
        if isSame then failWith i 1 s!"'{source}' and '{target}' are the same file"
        else match ← contentOf source with
          | .error e => failWith i 1 s!"cannot open '{source}' for reading: {e.message}"
          | .ok content =>
            match ← ask (.openFile target .writing) with
            | .error e => failWith i 1 s!"cannot create regular file '{target}': {e.message}"
            | .ok file =>
              let _ ← write file content
              let _ ← ask (.close file)
              let _ ← ask (.setMode target s.mode)
              return 0

def cp (i : Invocation) : Action Nat :=
  withWords i [switch 'r' "recursive", switch 'R' "", switch 'a' "archive", switch 'p' "", switch 'f' "force", switch 'v' ""]
    true 1 fun w =>
    withTargets i "" w.operands fun source target =>
      copyAll i (w.has 'r' || w.has 'R' || w.has 'a') 10000 source target

def mv (i : Invocation) : Action Nat :=
  withWords i [switch 'f' "force", switch 'n' "no-clobber", switch 'v' ""] true 1 fun w =>
    withTargets i "" w.operands fun source target => do
      match ← ask (.status source false) with
      | .error e => failWith i 1 s!"cannot stat '{source}': {e.message}"
      | .ok _ =>
        match ← ask (.rename source target) with
        | .ok () => return 0
        | .error e => failWith i 1 s!"cannot move '{source}' to '{target}': {e.message}"

def ln (i : Invocation) : Action Nat :=
  withWords i [switch 's' "symbolic", switch 'f' "force", switch 'n' "no-dereference", switch 'v' ""] true 1 fun w => do
    let make (source target : String) : Action Nat := do
      let isThere := (← ask (.status source true)).toOption.isSome
      if !w.has 's' && !isThere then failWith i 1 s!"failed to access '{source}': No such file or directory"
      else
        if w.has 'f' then let _ ← ask (.unlink target)
        match ← (if w.has 's' then ask (.makeLink source target) else ask (.linkTo source target)) with
        | .ok () => return 0
        | .error e =>
          failWith i 1 ("failed to create " ++ (if w.has 's' then "symbolic" else "hard") ++ s!" link '{target}': {e.message}")
    match w.operands with
    | [] => misuse i 1 "missing file operand"
    | [source] => make source (joinPath "." (lastName source))
    | operands => withTargets i "" operands make

def readlink (i : Invocation) : Action Nat :=
  withWords i [switch 'n' "no-newline", switch 'q' "quiet"] true 1 fun w =>
    if w.operands.isEmpty then misuse i 1 "missing operand"
    else greatest (fun path => do
      match ← ask (.linkTarget path) with
      | .ok target => output i (target ++ if w.has 'n' then "" else "\n")
      | .error _ => return 1) w.operands

end KernelAudit.Tool
