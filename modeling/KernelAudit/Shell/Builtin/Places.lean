import KernelAudit.Shell.Builtin.Options

/-! The commands that deal with the surroundings of a shell: its directory, the permissions of new files,
    limits and times. Each answers its status. -/

namespace KernelAudit.Shell

open Machine

/-! ### Directories -/

/-- The path that names lead to, taken one after the other from a path without its last slash. A step up
    takes the last name away. -/
def descend (names : List String) : List String → List String
  | [] => names
  | step :: rest =>
    if step = "." || step.isEmpty then descend names rest
    else if step = ".." then descend names.dropLast rest
    else descend (names ++ [step]) rest

/-- The path of a directory by the names that lead to it. Two slashes at the front are kept. -/
def logicalPath (here path : String) : Option String :=
  let isDouble (p : String) : Bool := p.startsWith "//" && !p.startsWith "///"
  let spell (double : Bool) (names : List String) : String := (if double then "//" else "/") ++ "/".intercalate names
  if path.startsWith "/" then some (spell (isDouble path) (descend [] (FileSystem.steps path)))
  else if here.isEmpty then none
  else some (spell (isDouble here) (descend (FileSystem.steps here) (FileSystem.steps path)))

/-- Whether a path is taken as it stands, without looking in other places. -/
def isDirect (path : String) : Bool :=
  path.startsWith "/" || path = "." || path = ".." || path.startsWith "./" || path.startsWith "../"

namespace Session

/-- Whether links are followed in names of directories. -/
def isPhysical (g : Given) : Bool := (g.options.getLast?.map (·.1)) = some 'P'

def directoryOptions : List KnownOption := [flag 'L', flag 'P']

/-- Notes where the shell is. -/
def enterDirectory (path : Option String) (keepsFormer : Bool) : Session Unit := do
  let former := (← get).directory
  when keepsFormer (assign "OLDPWD" former true)
  let path ← match path with
    | some path => pure path
    | none => ask .workingDirectory
  modify ({ · with directory := path })
  assign "PWD" path true

/-- Goes to a directory. -/
def goTo (physical : Bool) (path : String) : Session Bool := do
  let here := (← get).directory
  let logical := if physical then none else logicalPath here path
  match ← ask (.changeDirectory (logical.getD path)) with
  | .error _ => return false
  | .ok () =>
    enterDirectory logical true
    return true

/-- Looks for a directory in several places, and goes to the first that there is; whether it was another
    place than the usual one. -/
def goAmong (physical : Bool) (path : String) : List String → Session (Option Bool)
  | [] => pure none
  | place :: rest => do
    let full := if place.isEmpty then path else s!"{place}/{path}"
    match ← ask (.status full true) with
    | .ok status =>
      if status.kind = .directory then
        if ← goTo physical full then return some (!place.isEmpty) else fail s!"can't cd to {path}"
      else goAmong physical path rest
    | .error _ => goAmong physical path rest

def cdCommand (words : List String) : Session Nat := do
  let given ← options directoryOptions words
  let physical := isPhysical given
  let s ← get
  let (path, prints) := match given.words.head? with
    | none => ((s.value? "HOME").getD "", false)
    | some "-" => ((s.value? "OLDPWD").getD "", true)
    | some path => (path, false)
  let path := if path.isEmpty then "." else path
  let found ← if isDirect path then pure none
    else goAmong physical path (((s.value? "CDPATH").getD "").splitOn ":")
  let prints ← match found with
    | some elsewhere => pure (prints || elsewhere)
    | none => if ← goTo physical path then pure prints else fail s!"can't cd to {path}"
  when prints (do print ((← get).directory ++ "\n"))
  return 0

def pwdCommand (words : List String) : Session Nat := do
  let given ← options directoryOptions words
  let path ← if isPhysical given then ask .workingDirectory else do pure (← get).directory
  print (path ++ "\n")
  return 0

end Session

/-! ### Permissions -/

/-- The permissions of the owner, the group and the others, three bits each. -/
structure Permissions where
  bits : Nat
  deriving DecidableEq, Repr

namespace Permissions

def classes : List (Char × Nat) := [('u', 6), ('g', 3), ('o', 0)]

def lettersOf (n : Nat) : String :=
  String.ofList ([('r', 4), ('w', 2), ('x', 1)].filterMap fun (c, bit) => if n &&& bit ≠ 0 then some c else none)

def ofClass (p : Permissions) (shift : Nat) : Nat := (p.bits >>> shift) &&& 7

/-- The permissions in words. -/
def describe (p : Permissions) : String :=
  ",".intercalate (classes.map fun (c, shift) => String.singleton c ++ "=" ++ lettersOf (p.ofClass shift))

/-- What a letter grants. -/
def granted? (p : Permissions) : Char → Option Nat
  | 'r' => some 4
  | 'w' => some 2
  | 'x' => some 1
  | 'X' => some (if p.bits &&& 0o111 ≠ 0 then 1 else 0)
  | 's' | 't' => some 0
  | c => (classes.lookup c).map p.ofClass

/-- Changes the permissions of some classes. -/
def change (p : Permissions) (operator : Char) (shifts : List Nat) (granted : Nat) : Permissions :=
  let part := (shifts.map fun shift => granted <<< shift).foldl (· ||| ·) 0
  let all := (shifts.map fun shift => 7 <<< shift).foldl (· ||| ·) 0
  match operator with
  | '+' => ⟨p.bits ||| part⟩
  | '-' => ⟨p.bits &&& (0o777 ^^^ part)⟩
  | _ => ⟨(p.bits &&& (0o777 ^^^ all)) ||| part⟩

/-- Carries out the operators of a clause for some classes. -/
def operators (shifts : List Nat) : (fuel : Nat) → Permissions → List Char → Option Permissions
  | 0, _, _ => none
  | _, p, [] => some p
  | fuel + 1, p, operator :: rest =>
    if "+-=".toList.contains operator then
      let letters := rest.takeWhile fun c => !"+-=".toList.contains c
      match letters.mapM p.granted? with
      | none => none
      | some bits => operators shifts fuel (p.change operator shifts (bits.foldl (· ||| ·) 0)) (rest.drop letters.length)
    else none

/-- Carries out a clause. -/
def clause (p : Permissions) (text : String) : Option Permissions :=
  let who := text.toList.takeWhile "ugoa".toList.contains
  let shifts := if who.isEmpty || who.contains 'a' then classes.map (·.2) else who.filterMap (classes.lookup ·)
  let rest := text.toList.drop who.length
  if rest.isEmpty then none else operators shifts (rest.length + 1) p rest

/-- The permissions after the changes that a text describes. -/
def apply (p : Permissions) (text : String) : Option Permissions :=
  if text.isEmpty then some p else (text.splitOn ",").foldlM clause p

end Permissions

/-- A number in octal digits, if a text has no others. -/
def octal? (text : String) : Option Nat :=
  text.toList.foldlM (fun n c => if '0' ≤ c ∧ c ≤ '7' then some (n * 8 + (c.toNat - 48)) else none) 0

namespace Session

def umaskCommand (words : List String) : Session Nat := do
  let given ← options [flag 'S'] words
  let mask ← ask (.setMask none)
  let allowed : Permissions := ⟨0o777 ^^^ mask⟩
  match given.words.head? with
  | none =>
    if given.has 'S' then print (allowed.describe ++ "\n")
    else
      let digits := Nat.toDigits 8 mask
      print (String.ofList (List.replicate (4 - digits.length) '0' ++ digits) ++ "\n")
  | some text =>
    if text.front.isDigit then
      match octal? text with
      | some n => let _ ← ask (.setMask (some (n &&& 0o777)))
      | none => fail s!"Illegal number: {text}"
    else match allowed.apply text with
      | some p => let _ ← ask (.setMask (some (0o777 ^^^ p.bits)))
      | none => fail s!"Illegal mode: {text}"
  return 0

/-! ### Limits and times -/

/-- A limit with its unit and its letter; none is reached. -/
structure Limit where
  name : String
  letter : Char
  value : String

def limits : List Limit :=
  [⟨"time(seconds)", 't', "unlimited"⟩, ⟨"file(blocks)", 'f', "unlimited"⟩,
    ⟨"data(kbytes)", 'd', "unlimited"⟩, ⟨"stack(kbytes)", 's', "8192"⟩, ⟨"coredump(blocks)", 'c', "0"⟩,
    ⟨"memory(kbytes)", 'm', "unlimited"⟩, ⟨"locked memory(kbytes)", 'l', "8192"⟩,
    ⟨"process", 'p', "unlimited"⟩, ⟨"nofiles", 'n', "1048576"⟩, ⟨"vmemory(kbytes)", 'v', "unlimited"⟩,
    ⟨"locks", 'w', "unlimited"⟩, ⟨"rtprio", 'r', "0"⟩]

def ulimitCommand (words : List String) : Session Nat := do
  let given ← options ([flag 'H', flag 'S', flag 'a'] ++ limits.map fun l => flag l.letter) words
  if given.has 'a' then
    each (fun l => print (l.name ++ String.ofList (List.replicate (20 - l.name.length) ' ') ++ " " ++ l.value ++ "\n")) limits
  else
    let wanted := ((given.options.map (·.1)).filter fun c => limits.any (·.letter = c)).getLast?.getD 'f'
    match given.words with
    | [] => each (fun l => if l.letter = wanted then print (l.value ++ "\n") else pure ()) limits
    | [value] => if value ≠ "unlimited" && !value.toList.all Char.isDigit then fail "bad number"
    | _ => fail "too many arguments"
  return 0

def timesCommand (_ : List String) : Session Nat := do
  let line := "0m0.000000s 0m0.000000s\n"
  print (line ++ line)
  return 0

end Session

end KernelAudit.Shell
