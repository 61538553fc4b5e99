import KernelAudit.Shell.Builtin.Jobs
import KernelAudit.Shell.Builtin.Names
import KernelAudit.Shell.Builtin.Output
import KernelAudit.Shell.Builtin.Places
import KernelAudit.Shell.Builtin.Settings
import KernelAudit.Shell.Call
import KernelAudit.Shell.Condition

/-! Running commands. A shell runs a command by itself or starts a copy of itself for it; programs take
    the place of such a copy. -/

namespace KernelAudit.Shell

open Machine

/-- What is known of the place at which a command stands. -/
structure Position where
  /-- Whether somebody looks at the status, so that a failure is nothing to give up for. -/
  tested : Bool
  /-- Whether the process has nothing to do after the command. -/
  last : Bool
  deriving DecidableEq, Repr

namespace Position

def plain : Position := ⟨false, false⟩
def condition : Position := ⟨true, false⟩

/-- The place of a part after which something else follows. -/
def inner (p : Position) : Position := { p with last := false }

end Position

/-- What it takes to run a command, in microseconds. -/
def commandCost : Nat := 3

/-- How deep functions may call one another. -/
def functionLimit : Nat := 1000

/-- More steps than any shell takes. -/
def stepLimit : Nat := 1000000000000

namespace Session

/-! ### Commands that run nothing themselves -/

/-- Runs a command of the shell by its name. -/
def runPlain (name : String) (words : List String) : Session Nat :=
  match name with
  | "false" => pure 1
  | "[" | "test" => Condition.status name words
  | "alias" => aliasCommand words
  | "bg" | "fg" => controlCommand words
  | "cd" | "chdir" => cdCommand words
  | "command" => commandCommand words
  | "echo" => echoCommand words
  | "export" => exportCommand words
  | "getopts" => getoptsCommand words
  | "hash" => hashCommand words
  | "jobs" => jobsCommand words
  | "kill" => killCommand words
  | "local" => localCommand words
  | "printf" => printfCommand words
  | "pwd" => pwdCommand words
  | "read" => readCommand words
  | "readonly" => readOnlyCommand words
  | "set" => setCommand words
  | "shift" => shiftCommand words
  | "times" => timesCommand words
  | "trap" => trapCommand words
  | "type" => typeCommand words
  | "ulimit" => ulimitCommand words
  | "umask" => umaskCommand words
  | "unalias" => unaliasCommand words
  | "unset" => unsetCommand words
  | "wait" => waitCommand words
  | _ => pure 0

/-- Breaks loops off. -/
def breakCommand (why : Nat → Abort) (words : List String) : Session Nat := do
  let n ← match words with
    | [] => pure 1
    | word :: _ => do
      let n ← natural word
      if n = 0 then fail s!"Illegal number: {word}" else pure n
  let n := min n (← get).loops
  if n = 0 then return 0
  setStatus 0
  abort (why n)

/-- Returns from a function or a file. Where failures are fatal, returning with one is. -/
def returnCommand (p : Position) (words : List String) : Session Nat := do
  let s ← get
  let status ← match words with
    | [] => pure s.status
    | word :: _ => natural word
  setStatus status
  abort (if s.hasOption 'e' && !p.tested && status ≠ 0 then .exit else .return !words.isEmpty)

/-- Ends the shell. In a trap, the status from before it counts. -/
def exitCommand (words : List String) : Session Nat := do
  let s ← get
  let status ← match words with
    | [] => pure (s.trapStatus.getD s.status)
    | word :: _ => natural word
  setStatus status
  abort .exit

/-- The path of a file to be read in; a bare name is looked for on the search path. -/
def sourcePath (name : String) : Session String := do
  if name.toList.contains '/' then return name
  match ← firstFile .noEntry (State.candidates (← get).searchPath name) with
  | .ok (path :: _) => return path
  | _ => fail s!"{name}: not found"

/-! ### Copies of the shell -/

/-- Lets a copy of the shell begin. One in the background is deaf to the keyboard and has no input of its
    own. -/
def beginCopy (inBackground hasNoInput : Bool) : Session Unit := do
  dropTraps
  modify ({ · with jobs := [] })
  if inBackground then
    each (fun s => ask (.arrange s .ignored)) [Signal.interrupt, Signal.quit]
    modify fun s => { s with deaf := Signal.interrupt.number :: Signal.quit.number :: s.deaf }
  if hasNoInput then
    let _ ← ask (.close 0)
    let _ ← ask (.openFile "/dev/null" .reading)

/-- Takes note of a job in the background. -/
def addJob (ids : List Nat) (number : Nat) : Session Unit := modify fun s =>
  { s with
    jobs := ⟨number, ids.map fun id => (id, none), false⟩ :: s.jobs
    lastStarted := ids.getLast?, status := 0 }

/-- What a substitution stands for: the output without zeros, and without line ends behind it. -/
def substitutionText (output : String) : String :=
  String.ofList ((output.toList.filter (· ≠ '\x00')).reverse.dropWhile (· = '\n')).reverse

/-! ### Traces -/

/-- Shows a command before it is run, where the output for errors was before it. -/
def trace (saved : Saved) (texts : List String) : Session Unit := do
  let s ← get
  if s.hasOption 'x' then
    let descriptor := ((saved.lookup 2).bind id).getD 2
    let _ ← act (Action.write descriptor ((s.value? "PS4").getD "" ++ " ".intercalate texts ++ "\n"))

/-- Carries an assignment out. -/
def assignText (hides exported : Bool) (text : String) : Session Unit := do
  let (name, value) := nameAndValue text
  if hides then hide name
  assign name (value.getD "") (hides || exported)

end Session

/-- Whether a failure of the command ends a shell that gives up on failures. -/
def Command.isDecisive : Command → Bool
  | .simple .. | .subshell .. | .background .. | .pipeline .. => true
  | _ => false

open Session

/-! ### Running -/

mutual

def run (programs : Programs) : (fuel : Nat) → Position → Command → Session Unit
  | 0, _, _ => hang
  | fuel + 1, p, c => do
    if c.isNothing || (← get).hasOption 'n' then pure ()
    else
      runTraps programs fuel
      ask (.work commandCost)
      match c with
      | .nothing => pure ()
      | .simple line assignments words rs => runSimple programs fuel p line assignments words rs
      | .pipeline commands inBackground => runPipeline programs fuel p commands inBackground
      | .redirected line body rs => do
        modify ({ · with line })
        let directed ← map (expandRedirection fun c => substitute programs fuel c) rs
        let (saved, r) ← redirect (fun c => substitute programs fuel c) true [] directed
        match r with
        | .error _ =>
          restore saved
          if (← get).hasOption 'e' && !p.tested then abort .exit
        | .ok () =>
          let r ← attempt (run programs fuel p.inner body)
          restore saved
          ofExcept r
      | .subshell line body rs => runSubshell programs fuel p line body rs
      | .background line body rs => do
        modify ({ · with line })
        let directed ← map (expandRedirection fun c => substitute programs fuel c) rs
        let number ← claimJob
        let id ← fork do
          inCopy programs fuel true true do
            let (_, r) ← redirect (fun c => substitute programs fuel c) false [] directed
            ofExcept r
            run programs fuel ⟨false, true⟩ body
        addJob [id] number
      | .sequence a b => do
        run programs fuel p.inner a
        run programs fuel p b
      | .both a b => do
        run programs fuel .condition a
        if (← get).status = 0 then run programs fuel p b
      | .either a b => do
        run programs fuel .condition a
        if (← get).status ≠ 0 then run programs fuel p b
      | .not body => do
        run programs fuel .condition body
        modify fun s => { s with status := if s.status = 0 then 1 else 0 }
      | .branch condition yes no => do
        run programs fuel .condition condition
        if (← get).status = 0 then run programs fuel p yes
        else if no.isNothing then setStatus 0
        else run programs fuel p no
      | .loop inverted condition body => do
        modify fun s => { s with loops := s.loops + 1 }
        runLoop programs fuel p.inner inverted condition body 0
      | .each line name words body => do
        modify ({ · with line })
        let fields ← map (fun w => expandFields (fun c => substitute programs fuel c) w) words
        modify fun s => { s with loops := s.loops + 1 }
        runEach programs fuel p.inner name body 0 fields.flatten
      | .select line word clauses => do
        modify ({ · with line })
        let text ← expandText (fun c => substitute programs fuel c) .text word
        runClauses programs fuel p text.toList clauses
      | .define _ name body =>
        modify fun s => { s with functions := (name, body) :: s.functions.filter (·.1 ≠ name), status := 0 }
      runTraps programs fuel
      let s ← get
      if c.isDecisive && !p.tested && s.hasOption 'e' && s.status ≠ 0 then abort .exit

/-- Runs the traps of the signals that have been caught. -/
def runTraps (programs : Programs) : (fuel : Nat) → Session Unit
  | 0 => pure ()
  | fuel + 1 => do
    if (← get).traps.any (·.1 ≠ 0) then
      collectSignals
      let pending := (← get).pending
      if !pending.isEmpty then
        modify ({ · with pending := [] })
        each (fun signal => runTrap programs fuel signal) (pending.mergeSort)

def runTrap (programs : Programs) : (fuel : Nat) → Nat → Session Unit
  | 0, _ => pure ()
  | fuel + 1, signal => do
    let s ← get
    match s.trap? signal with
    | none | some "" => pure ()
    | some text =>
      modify ({ · with trapStatus := some (s.trapStatus.getD s.status) })
      let r ← attempt (runText programs fuel .plain text)
      match r with
      | .ok _ | .error (.return false) => setStatus s.status
      | _ => pure ()
      modify ({ · with trapStatus := s.trapStatus })
      match r with
      | .ok _ => pure ()
      | .error e => abort e

/-- Runs the complete commands of a text, and gives the status of the last one. -/
def runText (programs : Programs) : (fuel : Nat) → Position → String → Session Nat
  | 0, _, _ => hang
  | fuel + 1, p, text => runScript programs fuel p 0 (Script.ofText text)

def runScript (programs : Programs) : (fuel : Nat) → Position → Nat → Script → Session Nat
  | 0, _, _, _ => hang
  | fuel + 1, p, status, script => do
    match script.next (← get).aliases with
    | .error problem =>
      modify ({ · with line := problem.line })
      fail problem.message
    | .ok none => return status
    | .ok (some step) =>
      if step.command.isNothing then runScript programs fuel p status step.rest
      else
        run programs fuel { p with last := p.last && step.isLast } step.command
        runScript programs fuel p (← get).status step.rest

/-- Ends a shell: what is to happen at its end is done, and its status is settled. -/
def endShell (programs : Programs) : (fuel : Nat) → Session Unit
  | 0 => pure ()
  | fuel + 1 => do
    let s ← get
    match s.trap? 0 with
    | none | some "" => pure ()
    | some text =>
      modify fun s => { s with traps := s.traps.filter (·.1 ≠ 0), trapStatus := some s.status, loops := 0 }
      match ← attempt (runText programs fuel .plain text) with
      | .ok _ | .error (.leave _) | .error (.again _) | .error (.return _) => setStatus s.status
      | .error .exit | .error .error => pure ()

/-- Does something in a copy of the shell, and ends the copy. -/
def inCopy (programs : Programs) : (fuel : Nat) → (inBackground hasNoInput : Bool) → Session Unit → Session Unit
  | 0, _, _, _ => pure ()
  | fuel + 1, inBackground, hasNoInput, body => do
    beginCopy inBackground hasNoInput
    let _ ← attempt body
    endShell programs fuel

/-- The output of a command that is run in a copy of the shell. -/
def substitute (programs : Programs) : (fuel : Nat) → Command → Session String
  | 0, _ => hang
  | fuel + 1, c => do
    if c.isNothing then return ""
    let _ ← claimJob
    let (source, sink) ← ask .pipe
    let id ← fork do
      inCopy programs fuel false false do
        let _ ← ask (.close source)
        moveTo sink 1
        run programs fuel ⟨false, true⟩ c
    let _ ← ask (.close sink)
    let output := (← act (Action.readAll source)).toOption.getD ""
    let _ ← ask (.close source)
    let status ← awaitAll [id]
    modify ({ · with substituted := status })
    return substitutionText output

def runSubshell (programs : Programs) : (fuel : Nat) → Position → (line : Nat) → Command → List Redirection →
    Session Unit
  | 0, _, _, _, _ => hang
  | fuel + 1, p, line, body, rs => do
    modify ({ · with line })
    let directed ← map (expandRedirection fun c => substitute programs fuel c) rs
    let inside : Session Unit := do
      let (_, r) ← redirect (fun c => substitute programs fuel c) false [] directed
      ofExcept r
      run programs fuel { p with last := true } body
    if p.last && !(← get).traps.any (·.2 ≠ "") then
      inside
      abort .exit
    else
      let _ ← claimJob
      let id ← fork (inCopy programs fuel false false inside)
      setStatus (← awaitAll [id])

/-- Runs the commands of a pipeline, each in a copy of the shell. -/
def runPipeline (programs : Programs) : (fuel : Nat) → Position → List Command → (inBackground : Bool) →
    Session Unit
  | 0, _, _, _ => hang
  | fuel + 1, p, commands, inBackground => do
    let number ← claimJob
    let ids ← startPipeline programs fuel p inBackground none true commands
    if inBackground then addJob ids number else setStatus (← awaitAll ids)

/-- Starts the commands of a pipeline from one on whose input is known. -/
def startPipeline (programs : Programs) : (fuel : Nat) → Position → (inBackground : Bool) →
    (input : Option Nat) → (isFirst : Bool) → List Command → Session (List Nat)
  | 0, _, _, _, _, _ => hang
  | _, _, _, _, _, [] => pure []
  | fuel + 1, p, inBackground, input, isFirst, c :: rest => do
    let next ← if rest.isEmpty then pure none else do pure (some (← ask .pipe))
    let id ← fork do
      inCopy programs fuel inBackground (inBackground && isFirst) do
        if let some (source, _) := next then let _ ← ask (.close source)
        if let some source := input then moveTo source 0
        if let some (_, sink) := next then moveTo sink 1
        run programs fuel { p with last := true } c
    if let some source := input then let _ ← ask (.close source)
    if let some (_, sink) := next then let _ ← ask (.close sink)
    return id :: (← startPipeline programs fuel p inBackground (next.map (·.1)) false rest)

/-- Repeats a body. -/
def runLoop (programs : Programs) : (fuel : Nat) → Position → (inverted : Bool) → (condition body : Command) →
    (status : Nat) → Session Unit
  | 0, _, _, _, _, _ => hang
  | fuel + 1, p, inverted, condition, body, status => do
    let finish (status : Nat) : Session Unit := modify fun s => { s with loops := s.loops - 1, status }
    match ← attempt (run programs fuel .condition condition) with
    | .error (.leave n) =>
      finish status
      if 1 < n then abort (.leave (n - 1))
    | .error (.again n) =>
      if 1 < n then
        finish status
        abort (.again (n - 1))
      else runLoop programs fuel p inverted condition body status
    | .error e =>
      finish (← get).status
      abort e
    | .ok () =>
      if ((← get).status = 0) = inverted then finish status
      else match ← attempt (run programs fuel p body) with
        | .error (.leave n) =>
          finish (← get).status
          if 1 < n then abort (.leave (n - 1))
        | .error (.again n) =>
          if 1 < n then
            finish (← get).status
            abort (.again (n - 1))
          else runLoop programs fuel p inverted condition body (← get).status
        | .error e =>
          finish (← get).status
          abort e
        | .ok () => runLoop programs fuel p inverted condition body (← get).status

/-- Runs a body for each of some values of a variable. -/
def runEach (programs : Programs) : (fuel : Nat) → Position → (name : String) → (body : Command) →
    (status : Nat) → List String → Session Unit
  | 0, _, _, _, _, _ => hang
  | fuel + 1, p, name, body, status, values => do
    let finish (status : Nat) : Session Unit := modify fun s => { s with loops := s.loops - 1, status }
    match values with
    | [] => finish status
    | value :: rest =>
      assign name value false
      match ← attempt (run programs fuel p body) with
      | .error (.leave n) =>
        finish (← get).status
        if 1 < n then abort (.leave (n - 1))
      | .error (.again n) =>
        if 1 < n then
          finish (← get).status
          abort (.again (n - 1))
        else runEach programs fuel p name body (← get).status rest
      | .error e =>
        finish (← get).status
        abort e
      | .ok () => runEach programs fuel p name body (← get).status rest

/-- Runs the first clause that a text fits. -/
def runClauses (programs : Programs) : (fuel : Nat) → Position → List Char → List (List Word × Command) →
    Session Unit
  | 0, _, _, _ => hang
  | _, _, _, [] => setStatus 0
  | fuel + 1, p, text, (patterns, body) :: rest => do
    if ← fitsAny programs fuel text patterns then
      if body.isNothing then setStatus 0 else run programs fuel p body
    else runClauses programs fuel p text rest

def fitsAny (programs : Programs) : (fuel : Nat) → List Char → List Word → Session Bool
  | 0, _, _ => hang
  | _, _, [] => pure false
  | fuel + 1, text, w :: rest => do
    let pattern ← expandPattern (fun c => substitute programs fuel c) w
    if pattern.isMatch text then return true else fitsAny programs fuel text rest

def runSimple (programs : Programs) : (fuel : Nat) → Position → (line : Nat) →
    (assignments words : List Word) → List Redirection → Session Unit
  | 0, _, _, _, _, _ => hang
  | fuel + 1, p, line, assignments, words, rs => do
    modify ({ · with line, substituted := 0 })
    let c ← callOf (fun c => substitute programs fuel c) words
    let isExec : Bool := match c.callee, c.expanded.words with
      | .builtin, name :: _ => name = "exec"
      | _, _ => false
    when c.hides beginLocals
    let (saved, r) ← do
      match ← attempt (map (expandRedirection fun c => substitute programs fuel c) rs) with
      | .error e => pure ([], some (Except.error e))
      | .ok directed => do
        match ← redirect (fun c => substitute programs fuel c) true [] directed with
        | (saved, .error e) => pure (saved, some (if c.isSpecial then .error e else .ok ()))
        | (saved, .ok ()) => pure (saved, none)
    let outcome ← match r with
      | some outcome => pure outcome
      | none => attempt (perform programs fuel p c isExec saved assignments)
    if isExec then forget saved else restore saved
    when c.hides endLocals
    ofExcept outcome

/-- Assigns and runs, when all redirections have been carried out. -/
def perform (programs : Programs) : (fuel : Nat) → Position → Calling → (isExec : Bool) → Saved →
    (assignments : List Word) → Session Unit
  | 0, _, _, _, _, _ => hang
  | fuel + 1, p, c, isExec, saved, assignments => do
    let words := c.expanded.words
    let texts ← map (fun w => do
      let text ← expandText (fun c => substitute programs fuel c) .assignment w
      assignText c.hides (isExec && 1 < words.length) text
      return text) assignments
    trace saved (texts ++ c.expanded.fields)
    match c.callee, words with
    | .function body, _ :: args => runFunction programs fuel p body args
    | .builtin, name :: args => runBuiltin programs fuel p c.isSpecial name args
    | .program, name :: args =>
      let path := c.searchPath.getD (← get).searchPath
      match ← findProgram path name with
      | .program paths =>
        if p.last && !(← get).traps.any (·.2 ≠ "") then become programs name args paths
        else
          let _ ← claimJob
          let id ← fork (become programs name args paths)
          setStatus (← awaitAll [id])
      | .missing e =>
        warn s!"{name}: {startMessage e}"
        setStatus 127
      | _ => pure ()
    | _, _ => modify fun s => { s with status := s.substituted }

def runFunction (programs : Programs) : (fuel : Nat) → Position → Command → List String → Session Unit
  | 0, _, _, _ => hang
  | fuel + 1, p, body, args => do
    let s ← get
    if functionLimit ≤ s.functionDepth then
      fail s!"Maximum function recursion depth ({functionLimit}) reached"
    set { s with
      functionDepth := s.functionDepth + 1, arguments := args, loops := 0, optionIndex := 1, optionOffset := none }
    let r ← attempt (run programs fuel p.inner body)
    modify ({ · with
      functionDepth := s.functionDepth, arguments := s.arguments, loops := s.loops
      optionIndex := s.optionIndex, optionOffset := s.optionOffset })
    match r with
    | .error (.return _) => pure ()
    | r => ofExcept r

/-- Runs a command of the shell, and writes what it has printed. -/
def runBuiltin (programs : Programs) : (fuel : Nat) → Position → (isSpecial : Bool) → (name : String) →
    (args : List String) → Session Unit
  | 0, _, _, _, _ => hang
  | fuel + 1, p, isSpecial, name, args => do
    let former := (← get).command
    modify ({ · with command := some name, printed := "", printFailed := false })
    let act : Session Nat := match name with
      | "." => runSource programs fuel args
      | "eval" => if args.isEmpty then pure 0 else runText programs fuel p.inner (" ".intercalate args)
      | "exec" => do
        match ← noOptions args with
        | [] => return 0
        | name :: args =>
          match ← findProgram ((← get).searchPath) name with
          | .program paths => become programs name args paths
          | .missing e => failWith (startStatus e) s!"{name}: {startMessage e}" .exit
          | _ => pure ()
          return 0
      | "break" => breakCommand .leave args
      | "continue" => breakCommand .again args
      | "return" => returnCommand p args
      | "exit" => exitCommand args
      | name => runPlain name args
    let r ← attempt act
    match r with
    | .ok status =>
      flush
      let failed := (← get).printFailed
      when failed (warn s!"{name}: I/O error")
      setStatus (if failed then status ||| 1 else status)
    | .error _ => pure ()
    modify ({ · with command := former, printed := "", printFailed := false })
    match r with
    | .ok _ => pure ()
    | .error .error => if isSpecial then abort .error
    | .error e => abort e

/-- Reads a file in. -/
def runSource (programs : Programs) : (fuel : Nat) → List String → Session Nat
  | 0, _ => hang
  | fuel + 1, words => do
    match ← noOptions words with
    | [] => return 0
    | name :: _ =>
      let path ← sourcePath name
      let file ← openFile .input path
      let text := (← act (Action.readAll file)).toOption.getD ""
      let _ ← ask (.close file)
      modify ({ · with command := some path })
      match ← attempt (runScript programs fuel .plain 0 (Script.ofText text)) with
      | .ok status => return status
      | .error (.return _) => return (← get).status
      | .error e => abort e

end

end KernelAudit.Shell
