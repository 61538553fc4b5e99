import KernelAudit.Shell.Builtin.Options
import KernelAudit.Shell.Fields

/-! The commands that deal with variables and arguments. Each answers its status. -/

namespace KernelAudit.Shell

namespace Session

/-! ### Names with values -/

/-- A word as a name and a value, if it has an equality sign. -/
def nameAndValue (word : String) : String × Option String :=
  let name := word.toList.takeWhile (· ≠ '=')
  let rest := word.toList.drop name.length
  (String.ofList name, if rest.isEmpty then none else some (String.ofList rest.tail))

/-- Checks that something can be the name of a variable. -/
def checkName (name : String) : Session Unit :=
  if isName name then pure () else fail s!"{name}: bad variable name"

/-- Variables of a kind, as commands that make them so. -/
def listed (front : String) (isWanted : Variable → Bool) : Session Unit := do
  let s ← get
  let wanted := (s.bindings.filter fun b => isWanted b.2).mergeSort fun a b => decide (a.1 ≤ b.1)
  let front := if front.isEmpty then "" else front ++ " "
  each (fun (name, v) =>
    print (front ++ name ++ (match v.value with
      | some value => "=" ++ singleQuoted value
      | none => "") ++ "\n")) wanted

/-- Gives variables a mark, and a value if there is one. -/
def marking (command : String) (isMarked : Variable → Bool) (mark : Variable → Variable)
    (words : List String) : Session Nat := do
  let given ← options [flag 'p'] words
  if given.has 'p' || given.words.isEmpty then listed command isMarked
  else
    each (fun word => do
      let (name, value) := nameAndValue word
      if value.isNone && ((← get).binding? name).isSome then pure () else checkName name
      if let some value := value then assign name value false
      let v := ((← get).binding? name).getD ⟨none, false, false⟩
      modify (·.setVariable name (mark v))) given.words
  return 0

def exportCommand : List String → Session Nat := marking "export" (·.exported) ({ · with exported := true })

def readOnlyCommand : List String → Session Nat :=
  marking "readonly" (·.readOnly) ({ · with readOnly := true })

/-- Forgets variables or functions. -/
def unsetCommand (words : List String) : Session Nat := do
  let given ← options [flag 'v', flag 'f'] words
  let functions := (given.options.getLast?.map (·.1)) = some 'f'
  each (fun name => do
    if functions then modify fun s => { s with functions := s.functions.filter (·.1 ≠ name) }
    else
      let (name, _) := nameAndValue name
      checkName name
      unassign name) given.words
  return 0

/-- Makes variables local to the function that is running. -/
def localCommand (words : List String) : Session Nat := do
  if (← get).hidden.isEmpty then fail "not in a function"
  each (fun word => do
    if word = "-" then hideOptions
    else
      let (name, value) := nameAndValue word
      let former := (← get).binding? name
      if former.isNone && value.isNone then checkName name
      hide name
      match value with
      | some value => assign name value false
      | none => if former.isNone then modify (·.setVariable name ⟨none, false, false⟩)) words
  return 0

/-! ### Arguments -/

/-- Gives the shell other arguments. -/
def setArguments (arguments : List String) : Session Unit :=
  modify ({ · with arguments, optionIndex := 1, optionOffset := none })

def shiftCommand (words : List String) : Session Nat := do
  let n ← match words with
    | [] => pure 1
    | word :: _ => natural word
  let s ← get
  if s.arguments.length < n then fail "can't shift that many"
  setArguments (s.arguments.drop n)
  return 0

/-- What reading an option comes to. -/
structure OptionRead where
  letter : Char
  argument : Option String
  message : String
  /-- The number of the next word. -/
  index : Nat
  offset : Option Nat
  /-- Whether there are no more options. -/
  atEnd : Bool

/-- Reads the next option from some words: from the word under way, or from a new one. -/
def nextOption (known : List Char) (words : List String) (index : Nat) (offset : Option Nat) : OptionRead :=
  let quiet := known.head? = some ':'
  let under := match offset with
    | some n => if 1 < index then ((words[index - 2]?).getD "").toList.drop n else []
    | none => []
  let fresh := ((words[index - 1]?).getD "").toList
  let (text, index, isEnd) :=
    if !under.isEmpty then (under, index, false)
    else match fresh with
      | ['-', '-'] => ([], index + 1, true)
      | '-' :: c :: cs => (c :: cs, index + 1, false)
      | _ => ([], index, true)
  let progress (left : List Char) : Option Nat :=
    some (((words[index - 2]?).getD "").length - left.length)
  match text with
  | [] => ⟨'?', none, "", index, none, isEnd⟩
  | c :: left =>
    match known.dropWhile (· ≠ c) with
    | [] =>
      if quiet then ⟨'?', some (String.singleton c), "", index, progress left, false⟩
      else ⟨'?', none, s!"Illegal option -{c}\n", index, progress left, false⟩
    | _ :: ':' :: _ =>
      if !left.isEmpty then ⟨c, some (String.ofList left), "", index, none, false⟩
      else match words[index - 1]? with
        | some argument => ⟨c, some argument, "", index + 1, none, false⟩
        | none =>
          if quiet then ⟨':', some (String.singleton c), "", index, none, false⟩
          else ⟨'?', none, s!"No arg for -{c} option\n", index, none, false⟩
    | _ => ⟨c, some "", "", index, progress left, false⟩

def getoptsCommand (words : List String) : Session Nat := do
  match ← noOptions words with
  | known :: variableName :: more =>
    let s ← get
    let words := if more.isEmpty then s.arguments else more
    let (index, offset) :=
      if words.length + 1 < s.optionIndex then (1, none) else (s.optionIndex, s.optionOffset)
    let r := nextOption known.toList words index offset
    if !r.message.isEmpty then complain r.message
    match r.argument with
    | some argument => assign "OPTARG" argument false
    | none => if r.atEnd then pure () else unassign "OPTARG"
    modify fun s => s.setVariable "OPTIND"
      { (s.binding? "OPTIND").getD ⟨none, false, false⟩ with value := some (toString r.index) }
    checkName variableName
    assign variableName (String.singleton r.letter) false
    modify ({ · with optionIndex := r.index, optionOffset := r.offset })
    return if r.atEnd then 1 else 0
  | _ => fail "Usage: getopts optstring var [arg...]"

/-! ### Reading a line -/

/-- A line under way: its pieces in reverse, and whether the last character was a backslash. -/
structure LineRead where
  cells : List Cell
  escaped : Bool

/-- Reads a line from the input, piece by piece. A backslash protects the next character from being a
    separator, unless the line is read raw. -/
def readLine (raw : Bool) : Session (List Cell × Bool) :=
  act ((⟨[.expansion false], false⟩ : LineRead) |> Machine.Action.iterate fun l => do
    match ← Machine.Action.ask (.read 0 1) with
    | .error _ | .ok "" => return .error (l.cells.reverse, false)
    | .ok text =>
      let c := text.front
      if c = '\x00' then return .ok l
      else if l.escaped then
        let kept : List Cell := if c = '\n' then [] else [.char c false false]
        return .ok ⟨.expansion false :: (kept ++ l.cells), false⟩
      else if !raw && c = '\\' then return .ok { l with escaped := true }
      else if c = '\n' then return .error (l.cells.reverse, true)
      else return .ok { l with cells := .char c false true :: l.cells })

/-- Gives variables the fields of a line, the last one all that is left. -/
def assignFields : List String → List String → Session Unit
  | [], _ => pure ()
  | name :: names, fields => do
    checkName name
    assign name (fields.head?.getD "") false
    assignFields names fields.tail

def readCommand (words : List String) : Session Nat := do
  let given ← options [⟨'p', true⟩, flag 'r'] words
  if given.words.isEmpty then fail "arg count"
  let (cells, isComplete) ← readLine (given.has 'r')
  assignFields given.words (shareFields (← get).separators given.words.length cells)
  return if isComplete then 0 else 1

end Session

end KernelAudit.Shell
