import KernelAudit.Machine.Process

/-! Starting programs: a process becomes the program that lies under a path. A text whose first line
    names an interpreter is given to that interpreter. -/

namespace KernelAudit.Machine

/-- What a program is told when it starts. -/
structure Invocation where
  /-- The name that it was called by. -/
  name : String
  args : List String
  environment : List (String × String)
  deriving Repr

/-- The programs of a machine by their names; each ends with a status. -/
abbrev Programs := String → Option (Invocation → Action Nat)

/-- What it takes to start a program, in microseconds. -/
def startCost : Nat := 700

/-- How many interpreters may stand behind one another. -/
def interpreterLimit : Nat := 5

/-- How much of a text is looked at for an interpreter. -/
def interpreterLine : Nat := 255

/-- The interpreter that the front of a text names, with its argument if there is one. -/
def interpreter? (front : String) : Option (String × List String) :=
  match front.toList with
  | '#' :: '!' :: rest =>
    let isBlank (c : Char) : Bool := c = ' ' || c = '\t'
    let line := (rest.takeWhile (· ≠ '\n')).dropWhile isBlank
    let path := line.takeWhile (!isBlank ·)
    let argument := ((line.drop path.length).dropWhile isBlank).reverse.dropWhile isBlank
    if path.isEmpty then none
    else some (String.ofList path, if argument.isEmpty then [] else [String.ofList argument.reverse])
  | _ => none

/-- The front of a file. -/
def frontOf (path : String) : Action String := do
  match ← Action.ask (.openFile path .reading) with
  | .error _ => return ""
  | .ok file =>
    let front := (← Action.ask (.read file interpreterLine)).toOption.getD ""
    let _ ← Action.ask (.close file)
    return front

def executeFor (programs : Programs) : (fuel : Nat) → String → Invocation → Action Errno
  | 0, _, _ => pure .tooManyLinks
  | fuel + 1, path, i => do
    match ← Action.ask (.status path true) with
    | .error e => return e
    | .ok status =>
      if status.kind ≠ .regular || status.mode &&& 0o111 = 0 then return .denied
      match status.program with
      | some name =>
        match programs name with
        | none => return .badFormat
        | some program =>
          Action.ask .renew
          Action.ask (.work startCost)
          Action.exit (← program i)
      | none =>
        match interpreter? (← frontOf path) with
        | none => return .badFormat
        | some (interpreter, argument) =>
          executeFor programs fuel interpreter { i with name := interpreter, args := argument ++ path :: i.args }

/-- Becomes the program under a path. Only a refusal is ever answered. -/
def execute (programs : Programs) (path : String) (i : Invocation) : Action Errno :=
  executeFor programs interpreterLimit path i

/-- Becomes the first program among some paths; a refusal is that of the last path at which there is
    something. -/
def executeFirst (programs : Programs) (i : Invocation) : (paths : List String) → Errno → Action Errno
  | [], e => pure e
  | path :: rest, e => do
    let refusal ← execute programs path i
    executeFirst programs i rest (if refusal = .noEntry || refusal = .notDirectory then e else refusal)

end KernelAudit.Machine
