import KernelAudit.Shell.Expansion

/-! What a shell does with files: patterns stand for the files that they fit, and redirections decide what
    a command reads from and writes to. -/

namespace KernelAudit.Shell

open Machine

namespace Session

/-! ### Patterns -/

/-- The steps of a field between its slashes. -/
def pathSteps (f : Field) : List Field :=
  f.foldr (fun c steps =>
    if c.char = '/' then [] :: steps
    else match steps with
      | first :: rest => (c :: first) :: rest
      | [] => [[c]]) [[]]

/-- The paths from a directory on that some steps fit; a path whose last steps are no patterns has to
    exist. -/
def matchingPaths (isOpen : Bool) (before : String) : List Field → Session (List String)
  | [] => pure []
  | step :: rest => do
    let pattern := Pattern.ofChars step
    if pattern.isOpen then
      match ← ask (.list (if before.isEmpty then "." else before)) with
      | .error _ => return []
      | .ok names =>
        let showsHidden := step.head?.any (·.char = '.')
        let found := (["." , ".."] ++ names).filter fun name =>
          (showsHidden || !name.startsWith ".") && pattern.isMatch name.toList
        if rest.isEmpty then return found.map (before ++ ·)
        else return (← map (fun name => matchingPaths true (before ++ name ++ "/") rest) found).flatten
    else if rest.isEmpty then
      let path := before ++ Field.text (step.filter fun c => c.literal || c.char ≠ '\\')
      if !isOpen then return []
      match ← ask (.status path false) with
      | .ok _ => return [path]
      | .error _ => return []
    else matchingPaths isOpen (before ++ Field.text step ++ "/") rest

/-- The texts that a field stands for: the paths that it fits in order, or itself. -/
def fieldTexts (f : Field) : Session (List String) := do
  let mayMatch := f.any fun c => !c.literal && (c.char = '*' || c.char = '?' || c.char = '[')
  if !mayMatch || (← get).hasOption 'f' then return [f.text]
  match ← matchingPaths false "" (pathSteps f) with
  | [] => return [f.text]
  | paths => return paths.mergeSort fun a b => decide (a ≤ b)

/-! ### Whole words -/

variable (substitute : Command → Session String)

/-- The fields of a word. -/
def expandFields (w : Word) : Session (List String) := do
  let cells ← expandParts substitute .fields false true w
  let s ← get
  return (← map fieldTexts (splitFields s.separators cells)).flatten

/-- The text of a word that is not split. -/
def expandText (p : Purpose) (w : Word) : Session String := do
  return Cell.text (← expandParts substitute p false true w)

/-- The pattern of a word. -/
def expandPattern (w : Word) : Session Pattern := do
  return Pattern.ofChars (Cell.pattern (← expandParts substitute .text false true w))

/-! ### Redirections -/

/-- A redirection whose words have been expanded, except for those of a document. -/
inductive Directed where
  | file (descriptor : Nat) (mode : FileMode) (path : String)
  | copy (descriptor source : Nat)
  | close (descriptor : Nat)
  | document (descriptor : Nat) (body : Word)

def Directed.descriptor : Directed → Nat
  | .file d .. | .copy d _ | .close d | .document d _ => d

def expandRedirection : Redirection → Session Directed
  | .file d mode target => do return .file d mode (← expandText substitute .text target)
  | .copy d source => return .copy d source
  | .close d => return .close d
  | .copyOf d source => do
    let text ← expandText substitute .text source
    match text.toList with
    | ['-'] => return .close d
    | [c] => if c.isDigit then return .copy d (c.toNat - 48) else fail (Problem.message ⟨0, .badDescriptor⟩)
    | _ => fail (Problem.message ⟨0, .badDescriptor⟩)
  | .document d body => return .document d body
  | .pending d _ => return .document d []

/-- What a descriptor was before it was redirected: a copy of it, or nothing if it was closed. -/
abbrev Saved := List (Nat × Option Nat)

/-- The words for a path that cannot be opened or made. -/
def openMessage (makes : Bool) (path : String) (e : Errno) : String :=
  let reason := match e with
    | .noEntry | .notDirectory => if makes then "Directory nonexistent" else "No such file"
    | e => e.message
  "cannot " ++ (if makes then "create " else "open ") ++ path ++ ": " ++ reason

def openFile (mode : FileMode) (path : String) : Session Nat := do
  let makes := mode ≠ .input
  let attempt (how : FileSystem.Opening) : Session Nat := do
    match ← ask (.openFile path how) with
    | .ok n => return n
    | .error e => fail (openMessage makes path e)
  match mode with
  | .input => attempt .reading
  | .append => attempt .appending
  | .both => attempt .both
  | .replace => attempt .writing
  | .output =>
    if (← get).hasOption 'C' then
      match ← ask (.status path true) with
      | .error _ => attempt .making
      | .ok status =>
        if status.kind = .regular then fail (openMessage true path .alreadyThere)
        else attempt { FileSystem.Opening.writing with create := false, truncate := false }
    else attempt .writing

/-- A descriptor from which a text can be read. -/
def openText (content : String) : Session Nat := do
  let (source, sink) ← ask .pipe
  if content.length ≤ 4096 then
    let _ ← act (Action.write sink content)
  else
    let _ ← fork do
      let _ ← ask (.close source)
      let _ ← act (Action.write sink content)
      setStatus 0
  let _ ← ask (.close sink)
  return source

/-- Remembers what a descriptor is. -/
def save (saved : Saved) (descriptor : Nat) : Session Saved := do
  if saved.any (·.1 = descriptor) then return saved
  match ← ask (.duplicate descriptor 10) with
  | .ok copy => return (descriptor, some copy) :: saved
  | .error _ => return (descriptor, none) :: saved

/-- Lets a descriptor be another one that is open already, which is then closed. -/
def moveTo (source target : Nat) : Session Unit := do
  if source ≠ target then
    let _ ← ask (.duplicateTo source target)
    let _ ← ask (.close source)

/-- Carries a redirection out. If `keeps` is set, what the descriptor was before is remembered. -/
def redirectOne (keeps : Bool) (saved : Saved) (r : Directed) : Session Saved := do
  let remember : Session Saved := if keeps then save saved r.descriptor else pure saved
  match r with
  | .file d mode path =>
    let opened ← openFile mode path
    if opened = d then return if keeps && !saved.any (·.1 = d) then (d, none) :: saved else saved
    let saved ← remember
    moveTo opened d
    return saved
  | .document d body =>
    let opened ← openText (← expandText substitute .text body)
    if opened = d then return if keeps && !saved.any (·.1 = d) then (d, none) :: saved else saved
    let saved ← remember
    moveTo opened d
    return saved
  | .close d =>
    let saved ← remember
    let _ ← ask (.close d)
    return saved
  | .copy d source =>
    if d = source then return saved
    match ← ask (.statusOf source) with
    | .error e => fail s!"{source}: {e.message}"
    | .ok _ =>
      let saved ← remember
      let _ ← ask (.duplicateTo source d)
      return saved

/-- Makes descriptors what they were. -/
def restore : Saved → Session Unit
  | [] => pure ()
  | (d, some copy) :: rest => do
    let _ ← ask (.duplicateTo copy d)
    let _ ← ask (.close copy)
    restore rest
  | (d, none) :: rest => do
    let _ ← ask (.close d)
    restore rest

/-- Forgets what descriptors were. -/
def forget : Saved → Session Unit
  | [] => pure ()
  | (_, some copy) :: rest => do
    let _ ← ask (.close copy)
    forget rest
  | (_, none) :: rest => forget rest

/-- Carries redirections out one after the other. If one of them fails, those before it stay, and what
    was before is given together with the failure. -/
def redirect (keeps : Bool) : Saved → List Directed → Session (Saved × Except Abort Unit)
  | saved, [] => return (saved, .ok ())
  | saved, r :: rest => do
    match ← attempt (redirectOne substitute keeps saved r) with
    | .ok saved => redirect keeps saved rest
    | .error e => return (saved, .error e)

end Session

end KernelAudit.Shell
