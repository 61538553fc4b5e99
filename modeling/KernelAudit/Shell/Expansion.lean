import KernelAudit.Shell.Arithmetic
import KernelAudit.Shell.Basic
import KernelAudit.Shell.Fields

/-! Expansion: from a word to the fields that it stands for. Parameters, substitutions and arithmetic are
    replaced by their values, values that are not quoted are split, and patterns are replaced by the
    files that they fit. -/

namespace KernelAudit.Shell

open Machine

/-- What an expansion is for. -/
structure Purpose where
  /-- Whether the outcome is split into fields. -/
  splits : Bool
  /-- Whether tildes are looked for behind the signs of an assignment. -/
  assigns : Bool
  deriving DecidableEq, Repr

namespace Purpose

def fields : Purpose := ⟨true, false⟩
def text : Purpose := ⟨false, false⟩
def assignment : Purpose := ⟨false, true⟩

end Purpose

/-! ### Parameters -/

namespace State

/-- The letters of all options, as the parameter of the options names them. -/
def optionLetters : List Char := "ubaCEVvxsnmiIfe".toList

/-- All arguments in a row: in quotes with the first separator between them. -/
def joinedArguments (s : State) : String :=
  let separator := match s.value? "IFS" with
    | none => " "
    | some i => String.ofList (i.toList.take 1)
  separator.intercalate s.arguments

/-- All arguments as pieces. -/
def argumentCells (s : State) (all : Bool) (quoted splits : Bool) : List Cell :=
  if splits && !quoted then
    .expansion false :: List.intercalate [.boundary] (s.arguments.map fun a => Cell.ofText a false true)
  else if splits && all then
    if s.arguments.isEmpty then []
    else .expansion true :: List.intercalate [.boundary] (s.arguments.map fun a => Cell.ofText a true false)
  else Cell.ofText s.joinedArguments true false

/-- The text of a parameter that is no list of arguments. -/
def parameter? (s : State) (name : String) : Option String :=
  match name with
  | "?" => some (toString s.status)
  | "$" => some (toString s.processId)
  | "#" => some (toString s.arguments.length)
  | "!" => s.lastStarted.map toString
  | "-" => some (String.ofList (optionLetters.filter s.hasOption))
  | "0" => some s.name
  | _ =>
    if name.toList.all Char.isDigit then
      match name.toNat? with
      | some 0 => some s.name
      | some n => s.arguments[n - 1]?
      | none => none
    else s.value? name

def isArguments (name : String) : Bool := name = "@" || name = "*"

/-- The pieces of the value of a parameter. -/
def valueCells (s : State) (name : String) (quoted : Bool) (p : Purpose) : Option (List Cell) :=
  if isArguments name then some (s.argumentCells (name = "@") quoted p.splits)
  else (s.parameter? name).map fun v =>
    if quoted then Cell.ofText v true false else .expansion false :: Cell.ofText v false true

/-- The length of the value of a parameter. -/
def valueLength? (s : State) (name : String) (quoted : Bool) (p : Purpose) : Option Nat :=
  if isArguments name then
    let gap := if p.splits && !(quoted && name = "*") then 1
      else min 1 ((s.value? "IFS").getD " ").length
    some ((s.arguments.map (·.length)).foldl (· + ·) 0 + gap * (s.arguments.length - 1))
  else (s.parameter? name).map (·.length)

end State

/-! ### Tildes -/

/-- The directories of those who have one by their names. -/
def homes : List (String × String) :=
  [("root", "/root"), ("daemon", "/usr/sbin"), ("bin", "/bin"), ("sys", "/dev"), ("sync", "/bin"),
    ("games", "/usr/games"), ("man", "/var/cache/man"), ("lp", "/var/spool/lpd"), ("mail", "/var/mail"),
    ("news", "/var/spool/news"), ("uucp", "/var/spool/uucp"), ("proxy", "/bin"), ("www-data", "/var/www"),
    ("backup", "/var/backups"), ("list", "/var/list"), ("irc", "/run/ircd"), ("_apt", "/nonexistent"),
    ("nobody", "/nonexistent")]

def State.home? (s : State) (name : String) : Option String :=
  if name.isEmpty then s.value? "HOME" else homes.lookup name

/-- A tilde at the front of a text with the name behind it, which ends at one of some characters. At the
    very end of the text it counts only if the word ends there. -/
def State.expandTilde (s : State) (ends : List Char) (isLast : Bool) (text : List Char) :
    List Cell × List Char :=
  match text with
  | '~' :: rest =>
    let name := rest.takeWhile fun c => !ends.contains c
    let after := rest.drop name.length
    if after.isEmpty && !isLast then ([], text)
    else match s.home? (String.ofList name) with
      | some home => (Cell.ofText home true false, after)
      | none => ([], text)
  | _ => ([], text)

/-- The text of an assignment with its tildes, which may stand behind the first equality sign and behind
    colons. -/
def State.assignedText (s : State) (isLast splits : Bool) : (fuel : Nat) → (seenEquals : Bool) →
    List Char → List Cell
  | 0, _, text => Cell.ofText (String.ofList text) false splits
  | _, _, [] => []
  | fuel + 1, seenEquals, c :: rest =>
    if c = ':' || (c = '=' && !seenEquals) then
      let (home, rest) := s.expandTilde ['/', ':'] isLast rest
      .char c false splits :: home ++ s.assignedText isLast splits fuel (seenEquals || c = '=') rest
    else .char c false splits :: s.assignedText isLast splits fuel seenEquals rest

/-- The pieces of a literal text. -/
def State.literalCells (s : State) (p : Purpose) (atFront isLast splits : Bool) (text : String) :
    List Cell :=
  let (home, rest) := if atFront then s.expandTilde (if p.assigns then ['/', ':'] else ['/']) isLast text.toList
    else ([], text.toList)
  let body := if p.assigns then s.assignedText isLast splits (rest.length + 1) false rest
    else Cell.ofText (String.ofList rest) false splits
  if splits then .expansion false :: home ++ body else home ++ body

/-! ### Pieces of words -/

/-- Cuts a value down. Its pieces are given with their characters, a boundary being none. -/
def Cell.trim (cells : List Cell) (cut : List Cell → List (Option Char) → List Cell) : List Cell :=
  let isFront : Cell → Bool
    | .expansion _ => true
    | _ => false
  let items := cells.dropWhile isFront
  cells.takeWhile isFront ++ cut items (items.map fun
    | .char c .. => some c
    | _ => none)

namespace Session

/-- Gives up because a parameter has no value. -/
def unset (name message : String) : Session α := fail s!"{name}: {message}"

def arithmeticValue (text : String) : Session String := do
  let s ← get
  match Arithmetic.evaluate s.value? text with
  | .ok (n, assigned) =>
    each (fun (name, value) => assign name (toString value.toInt) false) assigned.reverse
    return toString n.toInt
  | .error (.flaw description) => fail ("arithmetic expression: " ++ description ++ ": \"" ++ text ++ "\"")
  | .error (.badNumber text) => fail ("Illegal number: " ++ text)
  | .error .overflow => do
    let id ← ask .ownId
    let _ ← ask (.send (.process id) ⟨8⟩)
    hang

mutual

/-- The pieces of a part of a word. `inBraces` is set for words inside a usage that is not quoted. -/
def expandPart (substitute : Command → Session String) (p : Purpose) (inBraces atFront isLast : Bool) :
    Part → Session (List Cell)
  | .text content quoted => do
    if quoted then return Cell.ofText content true false
    return (← get).literalCells p atFront isLast (inBraces && p.splits) content
  | .mark => return [.mark]
  | .arguments => return (← get).argumentCells true true p.splits
  | .substitution body quoted => do
    let output ← substitute body
    if quoted then return Cell.ofText output true false
    return .expansion false :: Cell.ofText output false true
  | .arithmetic expression quoted => do
    let cells ← expandParts substitute Purpose.text false false expression
    let value ← arithmeticValue (Cell.text cells)
    if quoted then return Cell.ofText value true false
    return .expansion false :: Cell.ofText value false true
  | .parameter name usage word quoted => do
    let s ← get
    let value := s.valueCells name quoted p
    let isMissing (ofEmpty : Bool) : Bool :=
      value.isNone || (ofEmpty && s.valueLength? name quoted p = some 0)
    let strict := s.hasOption 'u'
    match usage with
    | .value =>
      match value with
      | some cells => return cells
      | none => if strict then unset name "parameter not set" else return []
    | .length =>
      match s.valueLength? name quoted p with
      | none => if strict then unset name "parameter not set" else return lengthCells 0 quoted
      | some n => return lengthCells n quoted
    | .orElse ofEmpty =>
      if isMissing ofEmpty then expandParts substitute p (!quoted) true word
      else return value.getD []
    | .ifPresent ofEmpty =>
      if isMissing ofEmpty then return [] else expandParts substitute p (!quoted) true word
    | .orAssign ofEmpty =>
      if isMissing ofEmpty then
        let cells ← expandParts substitute Purpose.text false true word
        if !isName name then fail s!"{name}: bad variable name"
        assign name (Cell.text cells) false
        return ((← get).valueCells name quoted p).getD []
      else return value.getD []
    | .orFail ofEmpty =>
      if isMissing ofEmpty then
        let cells ← expandParts substitute Purpose.text false true word
        if word.isEmpty then
          unset name ("parameter not set" ++ if ofEmpty then " or null" else "")
        else unset name (Cell.text cells)
      else return value.getD []
    | .withoutStart longest =>
      match value with
      | none => if strict then unset name "parameter not set" else return []
      | some cells =>
        let pattern ← patternOf word
        return Cell.trim cells fun items cs => (pattern.frontCut? longest cs).elim items fun n => items.drop n
    | .withoutEnd longest =>
      match value with
      | none => if strict then unset name "parameter not set" else return []
      | some cells =>
        let pattern ← patternOf word
        return Cell.trim cells fun items cs => (pattern.backCut? longest cs).elim items fun n => items.take n
    | .invalid => fail "Bad substitution"
where
  lengthCells (n : Nat) (quoted : Bool) : List Cell :=
    if quoted then Cell.ofText (toString n) true false else .expansion false :: Cell.ofText (toString n) false true
  patternOf (word : List Part) : Session Pattern := do
    return Pattern.ofChars (Cell.pattern (← expandParts substitute Purpose.text false true word))

def expandParts (substitute : Command → Session String) (p : Purpose) (inBraces atFront : Bool) :
    List Part → Session (List Cell)
  | [] => return []
  | part :: rest => do
    let first ← expandPart substitute p inBraces atFront rest.isEmpty part
    let more ← expandParts substitute p inBraces false rest
    return first ++ more

end

end Session

end KernelAudit.Shell
