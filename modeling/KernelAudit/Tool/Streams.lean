import KernelAudit.Shell.Printing
import KernelAudit.Tool.Basic

/-! Tools that pass on what they read as it comes, or write without reading. -/

namespace KernelAudit.Tool

open Machine Action

/-- Copies from a descriptor to the output until there is no more. The answer tells what went wrong, and
    whether it was on the reading side. -/
def copyThrough (source : Nat) : Action (Option (Bool × Errno)) :=
  () |> iterate fun _ => do
    match ← ask (.read source blockSize) with
    | .error e => return .error (some (true, e))
    | .ok "" => return .error none
    | .ok block =>
      match ← write 1 block with
      | .ok () => return .ok ()
      | .error e => return .error (some (false, e))

/-- A text with marks for what cannot be seen. -/
def shown (ends tabs others : Bool) (text : String) : String :=
  String.join (text.toList.map fun c =>
    if c = '\n' then (if ends then "$\n" else "\n")
    else if c = '\t' then (if tabs then "^I" else "\t")
    else if !others then String.singleton c
    else
      let (front, n) := if 128 ≤ c.toNat then ("M-", c.toNat - 128) else ("", c.toNat)
      front ++ (if n < 32 then "^" ++ String.singleton (Char.ofNat (n + 64)) else if n = 127 then "^?"
        else String.singleton (Char.ofNat n)))

def padStart (width : Nat) (text : String) : String :=
  String.ofList (List.replicate (width - text.length) ' ') ++ text

/-- Numbers lines; empty ones are passed over on demand. -/
def numbered (skipsEmpty : Bool) : Nat → List String → List String
  | _, [] => []
  | n, line :: rest =>
    if line.isEmpty && skipsEmpty then line :: numbered skipsEmpty n rest
    else (padStart 6 (toString n) ++ "\t" ++ line) :: numbered skipsEmpty (n + 1) rest

/-- Takes all but the first of some empty lines that follow one another. -/
def squeezed : List String → List String
  | "" :: "" :: rest => squeezed ("" :: rest)
  | line :: rest => line :: squeezed rest
  | [] => []

/-- Lines rearranged, while a missing end of the last line stays missing. -/
def mapLines (f : List String → List String) (text : String) : String :=
  let lines := unlines (f (linesOf text))
  if text.endsWith "\n" || text.isEmpty then lines else String.ofList lines.toList.dropLast

def cat (i : Invocation) : Action Nat :=
  withWords i
    [switch 'n' "number", switch 'b' "number-nonblank", switch 'E' "show-ends", switch 'T' "show-tabs",
      switch 'v' "show-nonprinting", switch 'A' "show-all", switch 'e' "", switch 't' "",
      switch 's' "squeeze-blank", switch 'u' ""] true 1 fun w => do
    let paths := if w.operands.isEmpty then ["-"] else w.operands
    if w.options.all (·.1 = 'u') then
      greatest (fun path => do
        match ← openInput path with
        | .error e => failWith i 1 s!"{path}: {e.message}"
        | .ok file =>
          let problem ← copyThrough file
          closeInput file
          match problem with
          | none => return 0
          | some (true, e) => failWith i 1 s!"{path}: {e.message}"
          | some (false, e) => failWith i 1 s!"write error: {e.message}") paths
    else
      let others := w.has 'v' || w.has 'A' || w.has 'e' || w.has 't'
      overInputs i w.operands fun _ content => do
        let content := if w.has 's' then mapLines squeezed content else content
        let content := shown (w.has 'E' || w.has 'A' || w.has 'e') (w.has 'T' || w.has 'A' || w.has 't') others content
        put (if w.has 'n' || w.has 'b' then mapLines (numbered (w.has 'b') 1) content else content)

/-- Takes the options at the front of the words of an echo: whether the line is ended, and whether escapes
    count. -/
def echoOptions (ended escapes : Bool) : List String → Bool × Bool × List String
  | [] => (ended, escapes, [])
  | word :: rest =>
    match word.toList with
    | '-' :: c :: cs =>
      if (c :: cs).all "neE".toList.contains then
        let escapes := (c :: cs).foldl (fun e c => if c = 'e' then true else if c = 'E' then false else e) escapes
        echoOptions (ended && !(c :: cs).contains 'n') escapes rest
      else (ended, escapes, word :: rest)
    | _ => (ended, escapes, word :: rest)

def echo (i : Invocation) : Action Nat := do
  let (ended, escapes, words) := echoOptions true false i.args
  let text := " ".intercalate words
  let (text, goesOn) := if escapes then Shell.withEscapes text else (text, true)
  output i (text ++ if ended && goesOn then "\n" else "")

/-- Fills in a format. -/
def printf (i : Invocation) : Action Nat := do
  match i.args with
  | [] => misuse i 1 "missing operand"
  | format :: args =>
    let filled := Shell.fillFormat format args
    put (String.ofList filled.output.reverse)
    let _ ← filled.complaints.reverse.mapM (complain i)
    if let some problem := filled.failure then return ← failWith i 1 problem
    return if filled.complaints.isEmpty then 0 else 1

/-- What it takes to write a block, in microseconds. -/
def blockCost : Nat := 1000

/-- Writes a line again and again, until nobody reads it. -/
def yes (i : Invocation) : Action Nat := do
  let line := (if i.args.isEmpty then "y" else " ".intercalate i.args) ++ "\n"
  let block := String.join (List.replicate (8192 / line.length + 1) line)
  let problem ← () |> iterate fun _ => do
    ask (.work blockCost)
    match ← write 1 block with
    | .ok () => return .ok ()
    | .error e => return .error e
  failWith i 1 s!"standard output: {problem.message}"

/-- Writes the input to files as well as to the output. -/
def tee (i : Invocation) : Action Nat :=
  withWords i [switch 'a' "append", switch 'i' "ignore-interrupts"] true 1 fun w => do
    let opened ← w.operands.mapM fun path => do
      match ← ask (.openFile path (if w.has 'a' then .appending else .writing)) with
      | .ok file => return some file
      | .error e => do
        complain i s!"{path}: {e.message}"
        return none
    () |> iterate fun _ => do
      match ← ask (.read 0 blockSize) with
      | .error _ | .ok "" => return .error (if opened.all (·.isSome) then 0 else 1)
      | .ok block => do
        let _ ← (1 :: opened.filterMap id).mapM fun file => write file block
        return .ok ()

/-! ### Waiting -/

/-- A time in microseconds, from a number with a unit. -/
def duration? (text : String) : Option Nat :=
  let digits := text.toList.takeWhile Char.isDigit
  let rest := text.toList.drop digits.length
  let (fraction, rest) := match rest with
    | '.' :: rest => (rest.takeWhile Char.isDigit, rest.dropWhile Char.isDigit)
    | rest => ([], rest)
  let unit? : Option Nat := match rest with
    | [] | ['s'] => some 1
    | ['m'] => some 60
    | ['h'] => some 3600
    | ['d'] => some 86400
    | _ => none
  if text = "infinity" || text = "inf" then some Action.never
  else if digits.isEmpty && fraction.isEmpty then none
  else unit?.map fun unit =>
    let number (cs : List Char) : Nat := (String.ofList cs).toNat?.getD 0
    (number digits * 1000000 + number ((fraction ++ List.replicate 6 '0').take 6)) * unit

def sleep (i : Invocation) : Action Nat :=
  withWords i [] true 1 fun w => do
    if w.operands.isEmpty then misuse i 1 "missing operand"
    else
      let wrong := w.operands.filter fun t => (duration? t).isNone
      if wrong.isEmpty then
        pause ((w.operands.filterMap duration?).foldl (· + ·) 0)
        return 0
      else
        let _ ← wrong.mapM fun t => complain i s!"invalid time interval '{t}'"
        Action.complain s!"Try '{i.name} --help' for more information.\n"
        return 1

end KernelAudit.Tool
