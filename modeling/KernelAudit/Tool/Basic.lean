import KernelAudit.Machine.Launch

/-! Tools: small programs that read files or their input and write to their output. What they have in
    common is how their options are read, how they complain, and how they go through their inputs. -/

namespace KernelAudit.Tool

open Machine Action

/-- An option of a tool: a letter, perhaps a long name, and whether an argument belongs to it. -/
structure Choice where
  letter : Char
  name : String
  hasArgument : Bool
  deriving DecidableEq, Repr

/-- An option that is on or off. -/
def switch (letter : Char) (name : String) : Choice := ⟨letter, name, false⟩

/-- An option with an argument. -/
def setting (letter : Char) (name : String) : Choice := ⟨letter, name, true⟩

/-- The options and the other words of a tool. -/
structure Words where
  options : List (Char × String)
  operands : List String
  deriving Repr

namespace Words

def has (w : Words) (letter : Char) : Bool := w.options.any (·.1 = letter)

/-- The argument of an option; the last one counts. -/
def argument? (w : Words) (letter : Char) : Option String := w.options.reverse.lookup letter

/-- All words before options are told apart from operands. -/
def addOption (letter : Char) (argument : String) (w : Words) : Words :=
  { w with options := (letter, argument) :: w.options }

def addOperand (operand : String) (w : Words) : Words := { w with operands := operand :: w.operands }

/-- Reads the words of a tool. Where options may come behind operands, `mixed` is set. -/
def read (choices : List Choice) (mixed : Bool) : (fuel : Nat) → (letters : List Char) → List String →
    Except String Words
  | 0, _, words => .ok ⟨[], words⟩
  | fuel + 1, [], words =>
    match words with
    | [] => .ok ⟨[], []⟩
    | "--" :: rest => .ok ⟨[], rest⟩
    | word :: rest =>
      match word.toList with
      | '-' :: '-' :: long =>
        let name := String.ofList (long.takeWhile (· ≠ '='))
        let value := long.drop (name.length + 1)
        match choices.filter fun c => c.name.startsWith name && !c.name.isEmpty with
        | [] => .error s!"unrecognized option '--{name}'"
        | c :: _ =>
          if !c.hasArgument then (read choices mixed fuel [] rest).map (addOption c.letter "")
          else if name.length < long.length then
            (read choices mixed fuel [] rest).map (addOption c.letter (String.ofList value))
          else match rest with
            | [] => .error s!"option '--{c.name}' requires an argument"
            | value :: rest => (read choices mixed fuel [] rest).map (addOption c.letter value)
      | '-' :: c :: cs => read choices mixed fuel (c :: cs) rest
      | _ => if mixed then (read choices mixed fuel [] rest).map (addOperand word) else .ok ⟨[], words⟩
  | fuel + 1, c :: cs, words =>
    match choices.find? (·.letter = c) with
    | none => .error s!"invalid option -- '{c}'"
    | some choice =>
      if !choice.hasArgument then (read choices mixed fuel cs words).map (addOption c "")
      else match cs, words with
        | [], [] => .error s!"option requires an argument -- '{c}'"
        | [], word :: rest => (read choices mixed fuel [] rest).map (addOption c word)
        | cs, words => (read choices mixed fuel [] words).map (addOption c (String.ofList cs))

end Words

/-- A word among others, by its place; an empty one if there are not so many. -/
def wordAt (words : List String) (n : Nat) : String := (words[n]?).getD ""

/-- A complaint in the name of the tool. -/
def complain (i : Invocation) (message : String) : Action Unit := Action.complain s!"{i.name}: {message}\n"

/-- A complaint, and a status to end with. -/
def failWith (i : Invocation) (status : Nat) (message : String) : Action Nat := do
  complain i message
  return status

/-- A complaint about the way in which a tool was called. -/
def misuse (i : Invocation) (status : Nat) (message : String) : Action Nat := do
  complain i message
  Action.complain s!"Try '{i.name} --help' for more information.\n"
  return status

/-- Runs a tool on its words. -/
def withWords (i : Invocation) (choices : List Choice) (mixed : Bool) (status : Nat) (act : Words → Action Nat) :
    Action Nat :=
  match Words.read choices mixed ((i.args.map (·.length + 1)).foldl (· + ·) 0 + 1) [] i.args with
  | .ok words => act words
  | .error message => misuse i status message

/-- Does something for each element in turn, and gives the greatest status. -/
def greatest (f : α → Action Nat) : List α → Action Nat
  | [] => pure 0
  | a :: rest => do
    let status ← f a
    return max status (← greatest f rest)

/-! ### Inputs -/

/-- Opens a file; a dash stands for the input. -/
def openInput (path : String) : Action (Except Errno Nat) :=
  if path = "-" then pure (.ok 0) else ask (.openFile path .reading)

def closeInput (file : Nat) : Action Unit := do
  if file ≠ 0 then
    let _ ← ask (.close file)

/-- All of a file. -/
def contentOf (path : String) : Action (Except Errno String) := do
  match ← openInput path with
  | .error e => return .error e
  | .ok file =>
    let content ← readAll file
    closeInput file
    return content

/-- Does something with the content of each input; without any, with that of the standard input. -/
def overInputs (i : Invocation) (paths : List String) (act : String → String → Action Unit) : Action Nat :=
  greatest (fun path => do
    match ← contentOf path with
    | .error e => failWith i 1 s!"{path}: {e.message}"
    | .ok content => do
      act path content
      return 0) (if paths.isEmpty then ["-"] else paths)

/-- The lines of a text; the last one need not be ended. -/
def linesOf (text : String) : List String :=
  let lines := text.splitOn "\n"
  if lines.getLast? = some "" then lines.dropLast else lines

/-- Lines as a text. -/
def unlines (lines : List String) : String := String.join (lines.map (· ++ "\n"))

/-- Writes a text. When that fails, the tool says so. -/
def output (i : Invocation) (text : String) : Action Nat := do
  match ← write 1 text with
  | .ok () => return 0
  | .error .brokenPipe => failWith i 1 s!"write error: {Errno.message .brokenPipe}"
  | .error e => failWith i 1 s!"write error: {e.message}"

end KernelAudit.Tool
