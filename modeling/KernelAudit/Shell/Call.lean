import KernelAudit.Machine.Launch
import KernelAudit.Shell.Files
import KernelAudit.Shell.Lookup

/-! Calls: what the words of a simple command come to, and how a process becomes a program. -/

namespace KernelAudit.Shell

open Machine

/-- Words that are being expanded: the fields that have come of them, where the command begins among
    these, and the words that are left. -/
structure Expanded where
  fields : List String
  position : Nat
  rest : List Word

/-- What kind of command is called. -/
inductive Callee where
  | nothing
  | function (body : Command)
  | builtin
  | program

/-- A call as far as it is known before its other words are expanded. -/
structure Calling where
  expanded : Expanded
  callee : Callee
  /-- Whether a failure of the command itself ends the shell. -/
  isSpecial : Bool
  /-- Whether assignments in front hold for the command only. -/
  hides : Bool
  /-- Where programs are looked for, if not on the usual path. -/
  searchPath : Option String

namespace Expanded

/-- The fields from the command on. -/
def words (e : Expanded) : List String := e.fields.drop e.position

end Expanded

namespace Session

section

variable (substitute : Command → Session String)

/-- Expands words until there is a field. -/
def firstField : List Word → Session (List String × List Word)
  | [] => pure ([], [])
  | w :: rest => do
    let fields ← expandFields substitute w
    if fields.isEmpty then firstField rest else return (fields, rest)

/-- Sees to it that a field comes next, if there is any. -/
def look (e : Expanded) : Session Expanded := do
  if e.position < e.fields.length then return e
  let (fields, rest) ← firstField substitute e.rest
  return { e with fields := e.fields ++ fields, rest }

/-- Passes over the options of the command that runs others. Without a command behind them, or with an
    option that asks something, there is nothing to run. -/
def passOptions : (fuel : Nat) → Expanded → (searchPath : Option String) →
    Session (Expanded × Option (Option String))
  | 0, e, _ => pure (e, none)
  | fuel + 1, e, path => do
    let e ← look substitute e
    match e.words with
    | [] => return (e, none)
    | word :: _ =>
      match word.toList with
      | ['-', '-'] =>
        let e ← look substitute { e with position := e.position + 1 }
        return (e, if e.words.isEmpty then none else some path)
      | '-' :: 'p' :: more =>
        if more.all (· = 'p') then passOptions fuel { e with position := e.position + 1 } (some defaultPath)
        else return (e, none)
      | '-' :: _ :: _ => return (e, none)
      | _ => return (e, some path)

/-- Finds out what is called. `isFirst` holds until a command of the shell has been passed over. -/
def resolve : (fuel : Nat) → (isFirst : Bool) → (searchPath : Option String) → Expanded → Session Calling
  | 0, _, path, e => pure ⟨e, .nothing, false, true, path⟩
  | fuel + 1, isFirst, path, e => do
    match e.words with
    | [] => return ⟨e, .nothing, false, false, path⟩
    | name :: _ =>
      let functions := (← get).functions
      match if isFirst then functions.lookup name else none with
      | some body => return ⟨e, .function body, false, true, path⟩
      | none =>
        if !isBuiltin name then return ⟨e, .program, false, true, path⟩
        let isSpecial := isFirst && specialCommands.contains name
        let here : Calling := ⟨e, .builtin, isSpecial, !isSpecial, path⟩
        if name ≠ "command" then return here
        let start := e.position
        let (e, passed) ← passOptions substitute (e.fields.length + e.rest.length + 2)
          { e with position := start + 1 } path
        match passed with
        | none => return { here with expanded := { e with position := start } }
        | some path => resolve fuel false path e

/-- Expands the words that are left. Those that look like assignments are expanded as such where the
    command asks for it. -/
def expandRest (assigns : Bool) : List Word → Session (List String)
  | [] => pure []
  | w :: rest => do
    let fields ← if assigns && Reading.isAssignment w then do pure [← expandText substitute .assignment w]
      else expandFields substitute w
    return fields ++ (← expandRest assigns rest)

/-- The call that some words make, with all of them expanded. -/
def callOf (words : List Word) : Session Calling := do
  let e ← look substitute ⟨[], 0, words⟩
  let c ← resolve substitute (words.length + e.fields.length + 1) true none e
  let assigns := match c.callee, c.expanded.words with
    | .builtin, name :: _ => assigningCommands.contains name
    | _, _ => false
  let fields ← expandRest substitute assigns c.expanded.rest
  return { c with expanded := { c.expanded with fields := c.expanded.fields ++ fields, rest := [] } }

end

/-! ### Programs -/

/-- The shell by its path, which runs texts that are no programs. -/
def shellPath : String := "/bin/sh"

/-- Becomes the first program that works among some paths. A refusal is that of the last path at which
    there is something. -/
def executeAmong (programs : Programs) (name : String) (args : List String)
    (environment : List (String × String)) : Errno → List String → Action Errno
  | e, [] => pure e
  | e, path :: rest => do
    let refusal ← execute programs path ⟨name, args, environment⟩
    let refusal ← if refusal = .badFormat then execute programs shellPath ⟨shellPath, path :: args, environment⟩
      else pure refusal
    executeAmong programs name args environment
      (if refusal = .noEntry || refusal = .notDirectory then e else refusal) rest

/-- Becomes a program. If that cannot be, the process is at its end. -/
def become (programs : Programs) (name : String) (args paths : List String) : Session Unit := do
  let s ← get
  let e ← act (executeAmong programs name args s.environment .noEntry paths)
  failWith (startStatus e) s!"{name}: {startMessage e}" .exit

end Session

end KernelAudit.Shell
