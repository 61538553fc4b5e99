import KernelAudit.Shell.Builtin.Options
import KernelAudit.Shell.Lookup
import KernelAudit.Shell.Token

/-! The commands that tell and decide what names stand for. Each answers its status. -/

namespace KernelAudit.Shell

/-- The place of a name in a table of the given size, by which tables are shown. -/
def tableIndex (size : Nat) (name : String) : Nat :=
  let first := ((name.toList.head?).map Char.toNat).getD 0
  ((name.foldl (fun n c => n + c.toNat) (first * 16)) % 32768) % size

/-- Names with values in the order of a table. -/
def inTableOrder (size : Nat) (names : List (String × String)) : List (String × String) :=
  names.mergeSort fun a b => decide (tableIndex size a.1 ≤ tableIndex size b.1)

namespace Session

/-! ### Aliases -/

def aliasLine (name value : String) : String := name ++ "=" ++ singleQuoted value ++ "\n"

/-- A word as the name of an alias and its value. The name has at least one character. -/
def aliasAndValue (word : String) : String × Option String :=
  match word.toList with
  | [] => ("", none)
  | c :: cs =>
    let name := cs.takeWhile (· ≠ '=')
    let rest := cs.drop name.length
    (String.ofList (c :: name), if rest.isEmpty then none else some (String.ofList rest.tail))

def setAlias (name value : String) : Session Unit := modify fun s =>
  { s with aliases :=
      if s.aliases.any (·.1 = name) then s.aliases.map fun p => if p.1 = name then (name, value) else p
      else s.aliases ++ [(name, value)] }

def aliasCommand (words : List String) : Session Nat := do
  if words.isEmpty then
    each (fun (name, value) => print (aliasLine name value)) (inTableOrder 39 (← get).aliases)
    return 0
  let worked ← map (fun word => do
    let (name, value) := aliasAndValue word
    match value, (← get).aliases.lookup name with
    | some value, _ => do
      setAlias name value
      return true
    | none, some value => do
      print (aliasLine name value)
      return true
    | none, none => do
      complain s!"alias: {name} not found\n"
      return false) words
  return if worked.all id then 0 else 1

def unaliasCommand (words : List String) : Session Nat := do
  let given ← options [flag 'a'] words
  if given.has 'a' then
    modify ({ · with aliases := [] })
    return 0
  let worked ← map (fun name => do
    if (← get).aliases.any (·.1 = name) then
      modify fun s => { s with aliases := s.aliases.filter (·.1 ≠ name) }
      return true
    else
      complain s!"unalias: {name} not found\n"
      return false) given.words
  return if worked.all id then 0 else 1

/-! ### Programs that are known -/

def hashCommand (words : List String) : Session Nat := do
  let given ← options [flag 'r'] words
  if given.has 'r' then
    modify ({ · with known := [] })
    return 0
  if given.words.isEmpty then
    each (fun (_, path) => print (path ++ "\n")) (inTableOrder 31 (← get).known)
    return 0
  let worked ← map (fun name => do
    modify fun s => { s with known := s.known.filter (·.1 ≠ name) }
    match ← find true (← get).searchPath name with
    | .missing e => do
      warn s!"{name}: {startMessage e}"
      return false
    | _ => return true) given.words
  return if worked.all id then 0 else 1

/-! ### What a name is -/

/-- Tells what a name is, in words or as something to call. -/
def describe (verbose : Bool) (searchPath : String) (name : String) : Session Nat := do
  let s ← get
  let say (words bare : String) : Session Nat := do
    print ((if verbose then name ++ words else bare) ++ "\n")
    return 0
  if Token.keywords.contains name then say " is a shell keyword" name
  else match s.aliases.lookup name with
    | some value =>
      if verbose then say s!" is an alias for {value}" name
      else do
        print ("alias " ++ aliasLine name value)
        return 0
    | none =>
      let isTracked := searchPath = s.searchPath && (s.known.lookup name).isSome
      let unknown : Session Nat := do
        if verbose then print s!"{name}: not found\n"
        return 127
      match ← find true searchPath name with
      | .function _ => say " is a shell function" name
      | .builtin =>
        say (if specialCommands.contains name then " is a special shell builtin" else " is a shell builtin") name
      | .missing _ => unknown
      | .program paths =>
        let path := paths.head?.getD name
        if name.toList.contains '/' then
          match ← ask (.status name true) with
          | .ok _ => say s!" is {name}" name
          | .error _ => unknown
        else say ((if isTracked then " is a tracked alias for " else " is ") ++ path) path

def typeCommand (words : List String) : Session Nat := do
  let path := (← get).searchPath
  return (← map (describe true path) words).foldl (· ||| ·) 0

/-- What the command that runs others does when it has nothing to run. -/
def commandCommand (words : List String) : Session Nat := do
  let given ← options [flag 'p', flag 'v', flag 'V'] words
  let usual := (← get).searchPath
  let path := if given.has 'p' then defaultPath else usual
  match given.words with
  | name :: _ => if given.has 'v' || given.has 'V' then describe (given.has 'V') path name else return 0
  | [] => return 0

end Session

end KernelAudit.Shell
