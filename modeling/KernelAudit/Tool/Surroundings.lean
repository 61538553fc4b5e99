import KernelAudit.Tool.Streams

/-! Tools that tell of their surroundings or run another program in changed ones. -/

namespace KernelAudit.Tool

open Machine Action

/-! ### Running programs -/

/-- The paths under which a program may lie. -/
def programPaths (environment : List (String × String)) (name : String) : List String :=
  if name.toList.contains '/' then [name]
  else
    let searchPath := (environment.lookup "PATH").getD "/bin:/usr/bin"
    (searchPath.splitOn ":").map fun directory => if directory.isEmpty then name else s!"{directory}/{name}"

/-- Becomes the first program that works among some paths; a text that is no program is given to the
    shell. -/
def becomeAmong (programs : Programs) (i : Invocation) : Errno → List String → Action Errno
  | e, [] => pure e
  | e, path :: rest => do
    let refusal ← execute programs path i
    let refusal ← if refusal = .badFormat then execute programs "/bin/sh" { i with name := "/bin/sh", args := path :: i.args }
      else pure refusal
    becomeAmong programs i (if refusal = .noEntry || refusal = .notDirectory then e else refusal) rest

/-- Becomes another program. If that cannot be, the tool says so and ends. -/
def become (programs : Programs) (i : Invocation) (environment : List (String × String)) (words : List String)
    (quotes : Bool) : Action Nat := do
  match words with
  | [] => return 0
  | name :: args =>
    let e ← becomeAmong programs ⟨name, args, environment⟩ .noEntry (programPaths environment name)
    let shown := if quotes then s!"'{name}'" else name
    complain i s!"{shown}: {e.message}"
    return if e = .noEntry then 127 else 126

def setVariable (environment : List (String × String)) (name value : String) : List (String × String) :=
  if environment.any (·.1 = name) then environment.map fun b => if b.1 = name then (name, value) else b
  else environment ++ [(name, value)]

/-- Takes the assignments at the front of some words. -/
def takeAssignments (environment : List (String × String)) : List String → List (String × String) × List String
  | [] => (environment, [])
  | word :: rest =>
    let name := word.toList.takeWhile (· ≠ '=')
    if name.length < word.length then
      takeAssignments (setVariable environment (String.ofList name) (String.ofList (word.toList.drop (name.length + 1)))) rest
    else (environment, word :: rest)

def env (programs : Programs) (i : Invocation) : Action Nat :=
  withWords i
    [switch 'i' "ignore-environment", setting 'u' "unset", switch '0' "null", setting 'C' "chdir"] false 125 fun w => do
    let (bare, operands) := match w.operands with
      | "-" :: rest => (true, rest)
      | operands => (w.has 'i', operands)
    let unset := w.options.filterMap fun (c, name) => if c = 'u' then some name else none
    let kept := if bare then [] else i.environment.filter fun b => !unset.contains b.1
    let (environment, words) := takeAssignments kept operands
    if words.isEmpty then
      let ending := if w.has '0' then "\x00" else "\n"
      output i (String.join (environment.map fun (name, value) => name ++ "=" ++ value ++ ending))
    else
      let directory := (w.argument? 'C').getD "."
      match ← ask (.changeDirectory directory) with
      | .error e => failWith i 125 s!"cannot change directory to '{directory}': {e.message}"
      | .ok () => become programs i environment words true

/-- Shows variables by their names, or all of them. -/
def printenv (i : Invocation) : Action Nat := do
  match i.args with
  | [] => output i (String.join (i.environment.map fun (name, value) => name ++ "=" ++ value ++ "\n"))
  | names =>
    let values := names.filterMap (i.environment.lookup ·)
    put (unlines values)
    return if values.length = names.length then 0 else 1

/-- Runs a program that goes on when its terminal is gone, or one that gives way to others. -/
def unchanged (programs : Programs) (i : Invocation) : Action Nat :=
  match i.args with
  | [] => misuse i 125 "missing operand"
  | words => do
    let e ← becomeAmong programs ⟨words.headD "", words.tail, i.environment⟩ .noEntry
      (programPaths i.environment (words.headD ""))
    complain i s!"failed to run command '{wordAt words 0}': {e.message}"
    return if e = .noEntry then 127 else 126

/-! ### Limits of time -/

/-- Waits for a child, but no longer than to a time. -/
def awaitUntil (child deadline : Nat) : Action (Option Ending) :=
  () |> iterate fun _ => do
    match ← ask (.await (some child) false) with
    | .ended _ ending => return .error (some ending)
    | .noChild => return .error (some (.exited 0))
    | _ =>
      if deadline ≤ (← ask .clock) then return .error none
      pause 1000
      return .ok ()

def timeout (programs : Programs) (i : Invocation) : Action Nat :=
  withWords i [setting 's' "signal", setting 'k' "kill-after", switch 'f' "foreground", switch 'p' "preserve-status"]
    false 125 fun w =>
    match w.operands with
    | [] | [_] => do
      if let [text] := w.operands then
        if (duration? text).isNone then return ← misuse i 125 s!"invalid time interval '{text}'"
      Action.complain s!"Try '{i.name} --help' for more information.\n"
      return 125
    | text :: name :: args =>
      match duration? text with
      | none => misuse i 125 s!"invalid time interval '{text}'"
      | some limit => do
        let child ← fork do
          let e ← becomeAmong programs ⟨name, args, i.environment⟩ .noEntry (programPaths i.environment name)
          complain i s!"failed to run command '{name}': {e.message}"
          return if e = .noEntry then 127 else 126
        let now ← ask .clock
        match ← awaitUntil child (if limit = 0 then never else now + limit) with
        | some ending => return ending.status
        | none =>
          let signal := match w.argument? 's' with
            | some name =>
              (name.toNat?.map Signal.mk).orElse fun _ => Signal.ofName? (if name.startsWith "SIG" then String.ofList (name.toList.drop 3) else name)
            | none => some .terminate
          let signal := signal.getD .terminate
          let _ ← ask (.send (.process child) signal)
          let ending ← match (w.argument? 'k').bind duration? with
            | some more => do
              let now ← ask .clock
              match ← awaitUntil child (now + more) with
              | some ending => pure ending
              | none =>
                let _ ← ask (.send (.process child) .kill)
                pure ((← awaitUntil child never).getD (.exited 0))
            | none => do pure ((← awaitUntil child never).getD (.exited 0))
          if w.has 'p' || ending = .signalled .kill then return ending.status
          return 124

/-! ### Calls made of an input -/

/-- The words of a text, in which quotes and backslashes protect blanks. -/
def inputWords : (fuel : Nat) → (under : Option (List Char)) → (quote : Option Char) → List Char → List String
  | 0, _, _, _ => []
  | _, under, _, [] => (under.map fun cs => String.ofList cs.reverse).toList
  | fuel + 1, under, some q, c :: rest =>
    if c = q then inputWords fuel under none rest
    else inputWords fuel (some (c :: under.getD [])) (some q) rest
  | fuel + 1, under, none, '\\' :: c :: rest => inputWords fuel (some (c :: under.getD [])) none rest
  | fuel + 1, under, none, c :: rest =>
    if c = '"' || c = '\'' then inputWords fuel (some (under.getD [])) (some c) rest
    else if c = ' ' || c = '\t' || c = '\n' then
      (under.map fun cs => String.ofList cs.reverse).toList ++ inputWords fuel none none rest
    else inputWords fuel (some (c :: under.getD [])) none rest

/-- Parts of a list of at most the given length. -/
def portions (size : Nat) : (fuel : Nat) → List α → List (List α)
  | 0, _ => []
  | _, [] => []
  | fuel + 1, items => items.take (max size 1) :: portions size fuel (items.drop (max size 1))

/-- Runs a program in a child, and gives its status. -/
def callProgram (programs : Programs) (i : Invocation) (words : List String) : Action Nat := do
  let child ← fork do
    let e ← becomeAmong programs ⟨words.headD "", words.tail, i.environment⟩ .noEntry
      (programPaths i.environment (words.headD ""))
    complain i s!"{wordAt words 0}: {e.message}"
    return if e = .noEntry then 127 else 126
  return ((← awaitUntil child never).getD (.exited 0)).status

def xargs (programs : Programs) (i : Invocation) : Action Nat :=
  withWords i [setting 'n' "max-args", setting 'I' "replace", switch '0' "null", switch 'r' "no-run-if-empty",
    setting 'd' "delimiter", switch 't' "verbose", setting 'P' "max-procs", setting 'L' "max-lines"] false 1 fun w => do
    let text := (← readAll 0).toOption.getD ""
    let command := if w.operands.isEmpty then ["echo"] else w.operands
    let separated (separator : String) : List String :=
      let parts := text.splitOn separator
      if parts.getLast? = some "" then parts.dropLast else parts
    let words := if w.has '0' then separated "\x00"
      else match w.argument? 'd' with
        | some separator => separated separator
        | none => inputWords (text.length + 1) none none text.toList
    let calls := match w.argument? 'I' with
      | some mark =>
        ((linesOf text).filter (· ≠ "")).map fun (line : String) =>
          let line := String.ofList (line.toList.dropWhile fun c => c = ' ' || c = '\t')
          command.map fun (word : String) => line.intercalate (word.splitOn mark)
      | none =>
        let size := ((w.argument? 'n').bind String.toNat?).getD (max words.length 1)
        let parts := portions size (words.length + 1) words
        let parts := if parts.isEmpty && !w.has 'r' then [[]] else parts
        parts.map (command ++ ·)
    let statuses ← calls.mapM (callProgram programs i)
    let worst := statuses.foldl max 0
    return if worst = 126 || worst = 127 then worst else if worst = 0 then 0 else 123

/-! ### What there is -/

def whoami (i : Invocation) : Action Nat := output i "root\n"

def identity (i : Invocation) : Action Nat :=
  withWords i [switch 'u' "user", switch 'g' "group", switch 'n' "name", switch 'r' "real", switch 'G' "groups"] true 1
    fun w =>
      if w.has 'u' || w.has 'g' || w.has 'G' then output i (if w.has 'n' then "root\n" else "0\n")
      else output i "uid=0(root) gid=0(root) groups=0(root)\n"

def uname (i : Invocation) : Action Nat :=
  withWords i [switch 's' "kernel-name", switch 'm' "machine", switch 'n' "nodename", switch 'o' "operating-system"] true 1
    fun w =>
      let parts := (if w.has 's' || w.options.isEmpty then ["Linux"] else []) ++
        (if w.has 'n' then ["localhost"] else []) ++ (if w.has 'm' then ["x86_64"] else []) ++
        (if w.has 'o' then ["GNU/Linux"] else [])
      output i (" ".intercalate parts ++ "\n")

def hostname (i : Invocation) : Action Nat := output i "localhost\n"

/-- Shows where programs lie. -/
def which (i : Invocation) : Action Nat := do
  let found ← i.args.mapM fun name => do
    let present ← (programPaths i.environment name).filterM fun path => do
      match ← ask (.status path true) with
      | .ok s => return s.kind = .regular && s.mode &&& 0o111 ≠ 0
      | .error _ => return false
    put (unlines (present.take 1))
    return !present.isEmpty
  return if !found.isEmpty && found.all id then 0 else 1

/-- Sends a signal to processes. -/
def kill (i : Invocation) : Action Nat := do
  let (signal, ids) := match i.args with
    | "-s" :: name :: rest => (Signal.ofName? name, rest)
    | word :: rest =>
      match word.toList with
      | '-' :: cs =>
        let name := String.ofList cs
        ((name.toNat?.map Signal.mk).orElse fun _ => Signal.ofName? name, rest)
      | _ => (some Signal.terminate, i.args)
    | [] => (none, [])
  match signal with
  | none => misuse i 1 "not enough arguments"
  | some signal =>
    greatest (fun (text : String) => do
      match text.toNat? with
      | none => failWith i 1 s!"failed to parse argument: '{text}'"
      | some id =>
        match ← ask (.send (.process id) signal) with
        | .ok () => return 0
        | .error e => failWith i 1 s!"({text}): {e.message}") ids

end KernelAudit.Tool
