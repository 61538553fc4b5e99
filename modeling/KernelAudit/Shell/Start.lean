import KernelAudit.Shell.Run

/-! The shell as a program: what it takes over from its surroundings, what its arguments ask it to run,
    and the status that it ends with. -/

namespace KernelAudit.Shell

open Machine Session

namespace State

/-- The variables of a shell at its beginning. -/
def firstBindings (environment : List (String × String)) (parent : Nat) : List (String × Variable) :=
  let given := (environment.filter fun b => isName b.1).map fun (name, value) => (name, Variable.mk (some value) true false)
  let own (name value : String) : String × Variable := (name, ⟨some value, false, false⟩)
  let fixed := [own "IFS" " \t\n", own "OPTIND" "1", own "PPID" (toString parent)]
  let usual := [own "PATH" defaultPath, own "PS1" "# ", own "PS2" "> ", own "PS4" "+ "]
  fixed ++ given.filter (fun b => (fixed.lookup b.1).isNone) ++ usual.filter fun b => (given.lookup b.1).isNone

def first (i : Invocation) (processId parent : Nat) (deaf : List Nat) : State where
  name := i.name
  arguments := []
  bindings := firstBindings i.environment parent
  functions := []
  aliases := []
  options := []
  status := 0
  processId := processId
  lastStarted := none
  line := 0
  command := none
  traps := []
  deaf := deaf
  trapStatus := none
  jobs := []
  pending := []
  directory := ""
  known := []
  loops := 0
  hidden := []
  substituted := 0
  functionDepth := 0
  optionIndex := 1
  optionOffset := none
  printed := ""
  printFailed := false

end State

namespace Session

/-- Finds out where the shell is. The name that it is told is believed if it fits. -/
def locate : Session Unit := do
  let told := ((← get).value? "PWD").getD ""
  let here ← ask (.status "." true)
  let there ← ask (.status told true)
  match here, there with
  | .ok a, .ok b => enterDirectory (if a.node = b.node && told.startsWith "/" then some told else none) false
  | _, _ => enterDirectory none false

/-- Runs a script that is read from a descriptor. A directory counts as an empty one. -/
def runInput (programs : Programs) (descriptor : Nat) : Session Unit := do
  let text := (← act (Action.readAll descriptor)).toOption.getD ""
  let _ ← runScript programs stepLimit .plain 0 (Script.ofText text)

/-- Does what the arguments ask for: runs a script that is one of them, one that lies in a file, or one
    from the input. -/
def runArguments (programs : Programs) (args : List String) : Session Unit := do
  locate
  let settled ← readSettings true args.length false args
  when settled.words.isEmpty (modify (·.setOption 's' true))
  settleTerminal
  match settled.hasScript, settled.words with
  | true, [] => fail "-c requires an argument"
  | true, script :: rest =>
    if let name :: arguments := rest then modify ({ · with name, arguments })
    let readsInput := (← get).hasOption 's'
    let _ ← runText programs stepLimit ⟨false, !readsInput⟩ script
    when readsInput (runInput programs 0)
  | false, words =>
    if (← get).hasOption 's' then
      setArguments words
      runInput programs 0
    else if let path :: arguments := words then
      let file ← openFile .input path
      modify ({ · with name := path, arguments })
      match ← ask (.duplicate file 10) with
      | .error _ => runInput programs file
      | .ok script => do
        let _ ← ask (.close file)
        runInput programs script

end Session

/-- The shell as a program. -/
def program (programs : Programs) (i : Invocation) : Action Nat := do
  let id ← Action.ask .ownId
  let parent ← Action.ask .parentId
  let deaf ← ((List.range Signal.last).map (· + 1)).filterM fun n => do
    return (← Action.ask (.disposition ⟨n⟩)) = .ignored
  fun next =>
    (do
      let _ ← attempt (runArguments programs i.args)
      endShell programs stepLimit : Session Unit) (State.first i id parent deaf) fun _ s => next s.status

end KernelAudit.Shell
