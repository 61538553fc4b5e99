import KernelAudit.Tool.Filters
import KernelAudit.Tool.Regex

/-! Tools that look for regular expressions, and the one that evaluates expressions. -/

namespace KernelAudit.Tool

open Machine Action

/-- An expression that stands for nothing but its characters. -/
def Regex.literal (text : String) : Regex := text.toList.foldr (fun c r => .sequence (.char c) r) .empty

def Regex.isFound (ignoresCase : Bool) (r : Regex) (line : String) : Bool :=
  (r.search ignoresCase 0 line.toList).isSome

/-! ### Lines that match -/

/-- All matches in a line. -/
def allMatches (ignoresCase : Bool) (r : Regex) : (fuel : Nat) → Nat → List Char → List String
  | 0, _, _ => []
  | fuel + 1, position, rest =>
    match r.search ignoresCase position rest with
    | none => []
    | some (start, p) =>
      if p.position = start then
        match rest.drop (start - position) with
        | _ :: more => allMatches ignoresCase r fuel (start + 1) more
        | [] => []
      else
        String.ofList ((rest.drop (start - position)).take (p.position - start)) ::
          allMatches ignoresCase r fuel p.position p.rest

def isWordChar (c : Char) : Bool := c.isAlphanum || c = '_'

/-- Whether an expression is found as a whole word. -/
def isFoundAsWord (ignoresCase : Bool) (r : Regex) (line : String) : Bool :=
  let cs := line.toList
  (List.range (cs.length + 1)).any fun n =>
    let before := if n = 0 then none else cs[n - 1]?
    before.all (!isWordChar ·) &&
      (r.ways ignoresCase (2000 + 4 * cs.length) ⟨n, cs.drop n, []⟩).any fun p =>
        n < p.position && p.rest.head?.all (!isWordChar ·)

def grep (i : Invocation) : Action Nat :=
  withWords i [switch 'v' "invert-match", switch 'i' "ignore-case", switch 'c' "count", switch 'q' "quiet",
    switch 'n' "line-number", switch 'E' "extended-regexp", switch 'F' "fixed-strings", setting 'e' "regexp",
    switch 'x' "line-regexp", switch 'w' "word-regexp", switch 'o' "only-matching", switch 'l' "files-with-matches",
    switch 'h' "no-filename", switch 'H' "with-filename", switch 's' "no-messages", setting 'm' "max-count",
    switch 'G' "basic-regexp", switch 'a' "text"] true 2 fun w => do
    let given := (w.options.filter (·.1 = 'e')).map (·.2)
    let (patterns, paths) := if given.isEmpty then (w.operands.take 1, w.operands.drop 1) else (given, w.operands)
    if patterns.isEmpty then
      Action.complain s!"Usage: {i.name} [OPTION]... PATTERNS [FILE]...\nTry '{i.name} --help' for more information.\n"
      return 2
    let lines := patterns.flatMap (·.splitOn "\n")
    let regexes := lines.filterMap fun t => if w.has 'F' then some (Regex.literal t) else Regex.read (w.has 'E') t
    if regexes.length < lines.length then return ← failWith i 2 "Invalid regular expression"
    let r := match regexes with
      | [] => Regex.empty
      | first :: rest => rest.foldl .either first
    let r := if w.has 'x' then .sequence .lineStart (.sequence r .lineEnd) else r
    let fits (line : String) : Bool :=
      (if w.has 'w' then isFoundAsWord (w.has 'i') r line else r.isFound (w.has 'i') line) ≠ w.has 'v'
    let sources := if paths.isEmpty then ["-"] else paths
    let named := (1 < sources.length || w.has 'H') && !w.has 'h'
    let limit := ((w.argument? 'm').bind String.toNat?)
    let results ← sources.mapM fun path => do
      match ← contentOf path with
      | .error e => do
        if !w.has 's' then complain i s!"{path}: {e.message}"
        return (false, true)
      | .ok content =>
        let front := if named then (if path = "-" then "(standard input)" else path) ++ ":" else ""
        let found := (linesOf content).zipIdx.filter fun (line, _) => fits line
        let found := match limit with
          | some n => found.take n
          | none => found
        if w.has 'q' then pure ()
        else if w.has 'l' then (if found.isEmpty then pure () else put (path ++ "\n"))
        else if w.has 'c' then put s!"{front}{found.length}\n"
        else
          put (unlines (found.flatMap fun (line, n) =>
            let front := front ++ if w.has 'n' then s!"{n + 1}:" else ""
            if w.has 'o' then (allMatches (w.has 'i') r (line.length + 2) 0 line.toList).map (front ++ ·)
            else [front ++ line]))
        return (!found.isEmpty, false)
    if results.any (·.2) && !(w.has 'q' && results.any (·.1)) then return 2
    return if results.any (·.1) then 0 else 1

/-! ### Editing lines -/

/-- A place in the input of an editor. -/
inductive Address where
  | line (n : Nat)
  | last
  | found (r : Regex)

inductive Edit where
  | delete
  | print
  | quit
  | number
  | substitute (r : Regex) (replacement : List Char) (every prints ignoresCase : Bool) (nth : Nat)
  | exchange (source target : List Char)

/-- An edit with the lines that it is for. -/
structure Instruction where
  first : Option Address
  second : Option Address
  inverted : Bool
  edit : Edit

/-- A text up to a mark that is not protected, and what is behind it. -/
def upTo (mark : Char) : List Char → Option (List Char × List Char)
  | [] => none
  | '\\' :: c :: rest =>
    (upTo mark rest).map fun (front, rest) => (if c = mark then c :: front else '\\' :: c :: front, rest)
  | c :: rest => if c = mark then some ([], rest) else (upTo mark rest).map fun (front, rest) => (c :: front, rest)

def readAddress (extended : Bool) (text : List Char) : Option (Option Address × List Char) :=
  match text with
  | '$' :: rest => some (some .last, rest)
  | '/' :: rest => do
    let (pattern, rest) ← upTo '/' rest
    let r ← Regex.read extended (String.ofList pattern)
    return (some (.found r), rest)
  | _ =>
    let ds := text.takeWhile Char.isDigit
    if ds.isEmpty then some (none, text) else some ((digits? ds).map .line, text.drop ds.length)

def readEdit (extended : Bool) (text : List Char) : Option (Edit × List Char) :=
  match text with
  | 'd' :: rest => some (.delete, rest)
  | 'p' :: rest => some (.print, rest)
  | 'q' :: rest => some (.quit, rest)
  | '=' :: rest => some (.number, rest)
  | 's' :: mark :: rest => do
    let (pattern, rest) ← upTo mark rest
    let (replacement, rest) ← upTo mark rest
    let flags := rest.takeWhile fun c => c = 'g' || c = 'p' || c = 'i' || c = 'I' || c.isDigit
    let r ← Regex.read extended (String.ofList pattern)
    let nth := (digits? (flags.filter Char.isDigit)).getD 1
    return (.substitute r replacement (flags.contains 'g') (flags.contains 'p')
      (flags.contains 'i' || flags.contains 'I') nth, rest.drop flags.length)
  | 'y' :: mark :: rest => do
    let (source, rest) ← upTo mark rest
    let (target, rest) ← upTo mark rest
    if source.length = target.length then return (.exchange source target, rest) else none
  | _ => none

def readInstructions (extended : Bool) : (fuel : Nat) → List Char → Option (List Instruction)
  | 0, _ => none
  | fuel + 1, text => do
    let text := text.dropWhile fun c => c = ' ' || c = ';' || c = '\n' || c = '\t'
    if text.isEmpty then return []
    let (first, text) ← readAddress extended text
    let (second, text) ← match text with
      | ',' :: rest => readAddress extended rest
      | text => some (none, text)
    let text := text.dropWhile (· = ' ')
    let (inverted, text) := match text with
      | '!' :: rest => (true, rest)
      | text => (false, text)
    let (edit, text) ← readEdit extended (text.dropWhile (· = ' '))
    let text := text.dropWhile (· = ' ')
    match text with
    | [] | ';' :: _ | '\n' :: _ => return ⟨first, second, inverted, edit⟩ :: (← readInstructions extended fuel text)
    | _ => none

/-- A replacement with the parts of a match in their places. -/
def fillReplacement (line : List Char) (start : Nat) (p : Regex.Progress) : List Char → List Char
  | [] => []
  | '\\' :: c :: rest =>
    (if c.isDigit then
      let n := c.toNat - 48
      if n = 0 then (line.drop start).take (p.position - start)
      else match p.groups.lookup n with
        | some (a, b) => (line.drop a).take (b - a)
        | none => []
    else if c = 'n' then ['\n'] else if c = 't' then ['\t'] else [c]) ++ fillReplacement line start p rest
  | '&' :: rest => (line.drop start).take (p.position - start) ++ fillReplacement line start p rest
  | c :: rest => c :: fillReplacement line start p rest

/-- Replaces matches in a line from a position on; `skip` matches are passed over. -/
def replaceMatches (r : Regex) (replacement : List Char) (every ignoresCase : Bool) (line : List Char) :
    (fuel skip position : Nat) → (afterMatch : Bool) → List Char → List Char × Bool
  | 0, _, _, _, rest => (rest, false)
  | fuel + 1, skip, position, afterMatch, rest =>
    match r.search ignoresCase position rest with
    | none => (rest, false)
    | some (start, p) =>
      let before := rest.take (start - position)
      let here := rest.drop (start - position)
      if p.position = start then
        let inserted := if afterMatch && start = position then [] else fillReplacement line start p replacement
        match here with
        | [] => (before ++ inserted, true)
        | c :: more =>
          if skip = 0 && !every then (before ++ inserted ++ here, true)
          else
            let (after, _) := replaceMatches r replacement every ignoresCase line fuel (skip - 1) (start + 1) false more
            (before ++ (if skip = 0 then inserted else []) ++ c :: after, true)
      else if skip ≠ 0 then
        let (after, done) := replaceMatches r replacement every ignoresCase line fuel (skip - 1) p.position true p.rest
        (before ++ here.take (p.position - start) ++ after, done)
      else
        let inserted := fillReplacement line start p replacement
        if every then
          let (after, _) := replaceMatches r replacement every ignoresCase line fuel 0 p.position true p.rest
          (before ++ inserted ++ after, true)
        else (before ++ inserted ++ p.rest, true)

/-- An editor at a line: the line, what has been written, and what is left to be known of ranges. -/
structure Editing where
  line : String
  written : String
  deleted : Bool
  finished : Bool
  /-- The instructions whose ranges have begun, by their places. -/
  open_ : List Nat

def Address.fits (a : Address) (n : Nat) (isLast : Bool) (line : String) : Bool :=
  match a with
  | .line m => n = m
  | .last => isLast
  | .found r => r.isFound false line

/-- Whether an instruction is for a line, and whether its range goes on. -/
def Instruction.selects (s : Instruction) (isOpen : Bool) (n : Nat) (isLast : Bool) (line : String) : Bool × Bool :=
  match s.first, s.second with
  | none, _ => (true, false)
  | some a, none => (a.fits n isLast line, false)
  | some a, some b =>
    if isOpen then (true, !(match b with
      | .line m => m ≤ n
      | b => b.fits n isLast line))
    else if a.fits n isLast line then
      (true, match b with
        | .line m => n < m
        | .last => !isLast
        | .found _ => true)
    else (false, false)

def Editing.apply (isLast : Bool) (n : Nat) (e : Editing) (s : Instruction × Nat) : Editing :=
  if e.deleted || e.finished then e
  else
    let (selected, goesOn) := s.1.selects (e.open_.contains s.2) n isLast e.line
    let e := { e with open_ := if goesOn then s.2 :: e.open_.filter (· ≠ s.2) else e.open_.filter (· ≠ s.2) }
    if selected = s.1.inverted then e
    else match s.1.edit with
      | .delete => { e with deleted := true }
      | .print => { e with written := e.written ++ e.line ++ "\n" }
      | .quit => { e with finished := true }
      | .number => { e with written := e.written ++ toString n ++ "\n" }
      | .exchange source target =>
        { e with line := String.ofList (e.line.toList.map fun c =>
            match source.idxOf? c with
            | some k => (target[k]?).getD c
            | none => c) }
      | .substitute r replacement every prints ignoresCase nth =>
        let (line, changed) := replaceMatches r replacement every ignoresCase e.line.toList (2 * e.line.length + 4)
          (nth - 1) 0 false e.line.toList
        let line := String.ofList line
        { e with line, written := if changed && prints then e.written ++ line ++ "\n" else e.written }

/-- Edits lines one after the other. -/
def editLines (instructions : List (Instruction × Nat)) (silent : Bool) : (n : Nat) → List Nat → List String →
    List String → List String
  | _, _, written, [] => written
  | n, open_, written, line :: rest =>
    let e := instructions.foldl (Editing.apply rest.isEmpty n) ⟨line, "", false, false, open_⟩
    let written := (e.written ++ if silent || e.deleted then "" else e.line ++ "\n") :: written
    if e.finished then written else editLines instructions silent (n + 1) e.open_ written rest

def sed (i : Invocation) : Action Nat :=
  withWords i [switch 'n' "quiet", setting 'e' "expression", switch 'E' "regexp-extended", switch 'r' ""] true 1 fun w => do
    let given := (w.options.filter (·.1 = 'e')).map (·.2)
    let (scripts, paths) := if given.isEmpty then (w.operands.take 1, w.operands.drop 1) else (given, w.operands)
    if scripts.isEmpty then
      Action.complain s!"Usage: {i.name} [OPTION]... \x7bscript-only-if-no-other-script\x7d [input-file]...\n"
      return 1
    let script := "\n".intercalate scripts
    match readInstructions (w.has 'E' || w.has 'r') (script.length + 2) script.toList with
    | none => failWith i 1 s!"-e expression #1, char {script.length}: unknown command"
    | some instructions =>
      let contents ← (if paths.isEmpty then ["-"] else paths).mapM fun path => do
        match ← contentOf path with
        | .ok content => return some content
        | .error e => do
          complain i s!"can't read {path}: {e.message}"
          return none
      let text := String.join (contents.filterMap id)
      let edited := String.join (editLines instructions.zipIdx (w.has 'n') 1 [] [] (linesOf text)).reverse
      put (if text.endsWith "\n" || !edited.endsWith "\n" then edited else String.ofList edited.toList.dropLast)
      return if contents.all (·.isSome) then 0 else 2

/-! ### Expressions -/

/-- Why an expression has no value. -/
inductive ExprProblem where
  | missing (after : String)
  | surplus (word : String)
  | notNumber
  | byZero
  | badPattern
  deriving DecidableEq, Repr

def ExprProblem.message : ExprProblem → String
  | missing after => s!"syntax error: missing argument after '{after}'"
  | surplus word => s!"syntax error: unexpected argument '{word}'"
  | notNumber => "non-integer argument"
  | byZero => "division by zero"
  | badPattern => "Invalid regular expression"

def exprNumber? (text : String) : Option Int :=
  match text.toList with
  | '-' :: cs => (digits? cs).map fun n => -(n : Int)
  | cs => (digits? cs).map fun n => (n : Int)

/-- Whether a value counts as false. -/
def exprIsNull (text : String) : Bool := text.isEmpty || exprNumber? text = some 0

/-- How tightly an operator binds. -/
def exprLevel? (operator : String) : Option Nat :=
  if operator = "|" then some 1
  else if operator = "&" then some 2
  else if ["<", "<=", "=", "==", "!=", ">=", ">"].contains operator then some 3
  else if operator = "+" || operator = "-" then some 4
  else if ["*", "/", "%"].contains operator then some 5
  else if operator = ":" then some 6
  else none

/-- What an expression matches at the front of a text: its first group, or how much. -/
def exprMatch (text pattern : String) : Except ExprProblem String :=
  match Regex.read false pattern with
  | none => .error .badPattern
  | some r =>
    let hasGroup : Bool := 1 < (pattern.splitOn "\\(").length
    match r.matchAt false 0 text.toList with
    | none => .ok (if hasGroup then "" else "0")
    | some p =>
      if hasGroup then
        match p.groups.lookup 1 with
        | some (a, b) => .ok (String.ofList ((text.toList.drop a).take (b - a)))
        | none => .ok ""
      else .ok (toString p.position)

def exprApply (operator a b : String) : Except ExprProblem String := do
  let truth (p : Bool) : Except ExprProblem String := .ok (if p then "1" else "0")
  let numbers (f : Int → Int → Except ExprProblem Int) : Except ExprProblem String :=
    match exprNumber? a, exprNumber? b with
    | some x, some y => (f x y).map toString
    | _, _ => .error .notNumber
  let order : Ordering := match exprNumber? a, exprNumber? b with
    | some x, some y => compare x y
    | _, _ => compare a b
  match operator with
  | "|" => return if !exprIsNull a then a else if !exprIsNull b then b else "0"
  | "&" => return if exprIsNull a || exprIsNull b then "0" else a
  | "<" => truth (order = .lt)
  | "<=" => truth (order ≠ .gt)
  | "=" | "==" => truth (order = .eq)
  | "!=" => truth (order ≠ .eq)
  | ">=" => truth (order ≠ .lt)
  | ">" => truth (order = .gt)
  | "+" => numbers fun x y => .ok (x + y)
  | "-" => numbers fun x y => .ok (x - y)
  | "*" => numbers fun x y => .ok (x * y)
  | "/" => numbers fun x y => if y = 0 then .error .byZero else .ok (x.tdiv y)
  | "%" => numbers fun x y => if y = 0 then .error .byZero else .ok (x.tmod y)
  | _ => exprMatch a b

mutual

/-- An operand at the front of some words; `before` is the word in front of them. -/
def exprPrimary : (fuel : Nat) → (before : String) → List String → Except ExprProblem (String × List String)
  | 0, before, _ => .error (.missing before)
  | fuel + 1, before, words =>
    match words with
    | [] => .error (.missing before)
    | "(" :: rest => do
      let (value, rest) ← exprLevel fuel 1 "(" rest
      match rest with
      | ")" :: rest => return (value, rest)
      | word :: _ => .error (.surplus word)
      | [] => .error (.missing value)
    | "length" :: rest => do
      let (a, rest) ← exprPrimary fuel "length" rest
      return (toString a.length, rest)
    | "match" :: rest => do
      let (a, rest) ← exprPrimary fuel "match" rest
      let (b, rest) ← exprPrimary fuel a rest
      return (← exprMatch a b, rest)
    | "index" :: rest => do
      let (a, rest) ← exprPrimary fuel "index" rest
      let (b, rest) ← exprPrimary fuel a rest
      return (toString ((a.toList.findIdx? b.toList.contains).elim 0 (· + 1)), rest)
    | "substr" :: rest => do
      let (a, rest) ← exprPrimary fuel "substr" rest
      let (start, rest) ← exprPrimary fuel a rest
      let (count, rest) ← exprPrimary fuel start rest
      match exprNumber? start, exprNumber? count with
      | some n, some m =>
        return (if n ≤ 0 || m ≤ 0 then "" else String.ofList ((a.toList.drop (n.toNat - 1)).take m.toNat), rest)
      | _, _ => return ("", rest)
    | "+" :: word :: rest => .ok (word, rest)
    | word :: rest => .ok (word, rest)

/-- Operators of a level and all that bind more tightly. -/
def exprLevel : (fuel level : Nat) → (before : String) → List String → Except ExprProblem (String × List String)
  | 0, _, before, _ => .error (.missing before)
  | fuel + 1, level, before, words => do
    let (first, rest) ← if 6 < level then exprPrimary fuel before words else exprLevel fuel (level + 1) before words
    exprMore fuel level first rest

def exprMore : (fuel level : Nat) → String → List String → Except ExprProblem (String × List String)
  | 0, _, value, rest => .ok (value, rest)
  | fuel + 1, level, value, rest =>
    match rest with
    | operator :: more =>
      if exprLevel? operator = some level then do
        let (second, rest) ← if level = 6 then exprPrimary fuel operator more else exprLevel fuel (level + 1) operator more
        exprMore fuel level (← exprApply operator value second) rest
      else .ok (value, rest)
    | [] => .ok (value, rest)

end

def expr (i : Invocation) : Action Nat :=
  match i.args with
  | [] => misuse i 2 "missing operand"
  | words =>
    match exprLevel (20 * words.length + 20) 1 i.name words with
    | .error problem => failWith i 2 problem.message
    | .ok (_, word :: _) => failWith i 2 (ExprProblem.message (.surplus word))
    | .ok (value, []) => do
      put (value ++ "\n")
      return if exprIsNull value then 1 else 0

end KernelAudit.Tool
