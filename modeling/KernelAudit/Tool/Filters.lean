import KernelAudit.Shell.Pattern
import KernelAudit.Shell.Printing
import KernelAudit.Tool.Streams

/-! Tools that select, count, rearrange or change the lines of their inputs. -/

namespace KernelAudit.Tool

open Machine Action

/-! ### The front and the end -/

/-- A number in decimal digits. -/
def digits? (cs : List Char) : Option Nat :=
  if cs.isEmpty || !cs.all Char.isDigit then none else (String.ofList cs).toNat?

/-- Words in which a number stands as an option, with the option spelled out. -/
def spellCount (words : List String) : List String :=
  match words with
  | word :: rest =>
    match word.toList with
    | '-' :: cs => if (digits? cs).isSome then "-n" :: String.ofList cs :: rest else words
    | _ => words
  | [] => []

/-- A text in lines, each with its end. -/
def endedLines (text : String) : List String :=
  let lines := linesOf text
  if text.endsWith "\n" then lines.map (· ++ "\n") else lines.dropLast.map (· ++ "\n") ++ (lines.getLast?).toList

/-- How much a tool is to take: a number of lines or characters, with its sign. -/
structure Amount where
  inLines : Bool
  sign : Option Char
  number : Nat

def amount? (w : Words) : Except (Bool × String) Amount :=
  let last := (w.options.filter fun o => o.1 = 'n' || o.1 = 'c').getLast?.getD ('n', "10")
  let inLines : Bool := last.1 = 'n'
  let (sign, cs) := match last.2.toList with
    | '-' :: cs => (some '-', cs)
    | '+' :: cs => (some '+', cs)
    | cs => (none, cs)
  match digits? cs with
  | some n => .ok ⟨inLines, sign, n⟩
  | none => .error (inLines, last.2)

/-- Pieces of a text: lines or characters. -/
def piecesOf (inLines : Bool) (text : String) : List String :=
  if inLines then endedLines text else text.toList.map String.singleton

/-- Goes through files, with a title before each if there are several. -/
def titled (i : Invocation) (w : Words) (act : String → Nat → Action Unit) : Action Nat := do
  let paths := if w.operands.isEmpty then ["-"] else w.operands
  let shows := !w.has 'q' && (w.has 'v' || 1 < paths.length)
  let rec go (front : String) : List String → Action Nat
    | [] => pure 0
    | path :: rest => do
      match ← openInput path with
      | .error e =>
        complain i s!"cannot open '{path}' for reading: {e.message}"
        return max 1 (← go front rest)
      | .ok file =>
        let title := if path = "-" then "standard input" else path
        if shows then put (front ++ "==> " ++ title ++ " <==\n")
        act path file
        closeInput file
        go "\n" rest
  go "" paths

/-- Takes lines or characters from a descriptor until there are enough. -/
def takeFront (file : Nat) (a : Amount) : Action Unit :=
  a.number |> iterate fun left => do
    if left = 0 then return .error ()
    match ← ask (.read file blockSize) with
    | .error _ | .ok "" => return .error ()
    | .ok block =>
      let pieces := piecesOf a.inLines block
      let complete := if a.inLines && !block.endsWith "\n" then pieces.length - 1 else pieces.length
      let taken := String.join (pieces.take left)
      put taken
      let _ ← ask (.unread file (block.length - taken.length))
      return .ok (left - complete)

def head (i : Invocation) : Action Nat :=
  withWords { i with args := spellCount i.args }
    [setting 'n' "lines", setting 'c' "bytes", switch 'q' "quiet", switch 'v' "verbose"] true 1 fun w =>
    match amount? w with
    | .error (inLines, text) =>
      failWith i 1 (s!"invalid number of " ++ (if inLines then "lines" else "bytes") ++ s!": '{text}'")
    | .ok a => titled i w fun _ file => do
      if a.sign = some '-' then
        let pieces := piecesOf a.inLines ((← readAll file).toOption.getD "")
        put (String.join (pieces.take (pieces.length - a.number)))
      else takeFront file a

def tail (i : Invocation) : Action Nat :=
  withWords { i with args := spellCount i.args }
    [setting 'n' "lines", setting 'c' "bytes", switch 'q' "quiet", switch 'v' "verbose"] true 1 fun w =>
    match amount? w with
    | .error (inLines, text) =>
      failWith i 1 (s!"invalid number of " ++ (if inLines then "lines" else "bytes") ++ s!": '{text}'")
    | .ok a => titled i w fun _ file => do
      let pieces := piecesOf a.inLines ((← readAll file).toOption.getD "")
      put (String.join (if a.sign = some '+' then pieces.drop (a.number - 1)
        else pieces.drop (pieces.length - a.number)))

/-! ### Counting -/

def isSpace (c : Char) : Bool := c = ' ' || (9 ≤ c.toNat && c.toNat ≤ 13)

/-- The words of a text. -/
def countWords : (inWord : Bool) → List Char → Nat
  | _, [] => 0
  | inWord, c :: rest =>
    if isSpace c then countWords false rest
    else (if inWord then 0 else 1) + countWords true rest

structure Counts where
  lines : Nat
  words : Nat
  bytes : Nat
  longest : Nat

namespace Counts

def ofText (text : String) : Counts :=
  ⟨(text.toList.filter (· = '\n')).length, countWords false text.toList, text.length,
    ((linesOf text).map String.length).foldl max 0⟩

def add (a b : Counts) : Counts :=
  ⟨a.lines + b.lines, a.words + b.words, a.bytes + b.bytes, max a.longest b.longest⟩

def shown (c : Counts) (w : Words) : List Nat :=
  let all := !"lwcmL".toList.any w.has
  (if all || w.has 'l' then [c.lines] else []) ++ (if all || w.has 'w' then [c.words] else []) ++
    (if w.has 'm' then [c.bytes] else []) ++ (if all || w.has 'c' then [c.bytes] else []) ++
    (if w.has 'L' then [c.longest] else [])

end Counts

/-- How wide numbers are written: as wide as the greatest one could be, if that is known. -/
def countWidth (paths : List String) : Action Nat := do
  let sizes ← paths.mapM fun path => do
    match ← (if path = "-" then ask (.statusOf 0) else ask (.status path true)) with
    | .error _ => return some 0
    | .ok status => return if status.kind = .regular then some status.size else none
  let width := (toString ((sizes.filterMap id).foldl (· + ·) 0)).length
  return if sizes.any (·.isNone) then max 7 width else width

def wc (i : Invocation) : Action Nat :=
  withWords i
    [switch 'l' "lines", switch 'w' "words", switch 'c' "bytes", switch 'm' "chars", switch 'L' "max-line-length"]
    true 1 fun w => do
    let paths := if w.operands.isEmpty then ["-"] else w.operands
    let single : Bool := paths.length = 1 && ((Counts.ofText "").shown w).length = 1
    let width ← if single then pure 1 else countWidth paths
    let line (c : Counts) (name : String) : String :=
      " ".intercalate ((c.shown w).map fun n => padStart width (toString n)) ++
        (if name.isEmpty then "" else " " ++ name) ++ "\n"
    let rec go (total : Counts) : List String → Action (Nat × Counts)
      | [] => pure (0, total)
      | path :: rest => do
        match ← contentOf path with
        | .error e =>
          complain i s!"{path}: {e.message}"
          let (status, total) ← go total rest
          return (max 1 status, total)
        | .ok content =>
          let c := Counts.ofText content
          put (line c (if w.operands.isEmpty then "" else path))
          go (total.add c) rest
    let (status, total) ← go ⟨0, 0, 0, 0⟩ paths
    if 1 < paths.length then put (line total "total")
    return status

/-! ### Characters -/

/-- The characters of a set: single ones, ranges, classes and escapes. -/
def setChars : (fuel : Nat) → List Char → List Char
  | 0, _ => []
  | _, [] => []
  | fuel + 1, '[' :: ':' :: rest =>
    let name := rest.takeWhile (· ≠ ':')
    let all := (List.range 256).map Char.ofNat
    all.filter (Shell.SetMember.isNamed (String.ofList name)) ++ setChars fuel (rest.drop (name.length + 2))
  | fuel + 1, '\\' :: c :: rest =>
    let (c, rest) := Shell.readEscape (c :: rest)
    c :: setChars fuel rest
  | fuel + 1, a :: '-' :: b :: rest =>
    (List.range (b.toNat + 1 - a.toNat)).map (fun n => Char.ofNat (a.toNat + n)) ++ setChars fuel rest
  | fuel + 1, c :: rest => c :: setChars fuel rest

/-- Takes all but the first of some equal characters that follow one another. -/
def squeeze (isWanted : Char → Bool) : List Char → List Char
  | a :: b :: rest => if a = b && isWanted a then squeeze isWanted (b :: rest) else a :: squeeze isWanted (b :: rest)
  | cs => cs

/-- A character under a translation; the last character of the second set stands in for those missing. -/
def translate (source target : List Char) (c : Char) : Char :=
  match source.reverse.idxOf? c with
  | none => c
  | some n => (target[source.length - 1 - n]?).getD (target.getLast?.getD c)

def tr (i : Invocation) : Action Nat :=
  withWords i [switch 'd' "delete", switch 's' "squeeze-repeats", switch 'c' "complement", switch 'C' "",
    switch 't' "truncate-set1"] false 1 fun w => do
    let sets := w.operands.map fun t => setChars (t.length + 1) t.toList
    let complement := w.has 'c' || w.has 'C'
    let filter (f : List Char → List Char) : Action Nat := do
      () |> iterate fun _ => do
        match ← ask (.read 0 blockSize) with
        | .error _ | .ok "" => return .error 0
        | .ok block =>
          put (String.ofList (f block.toList))
          return .ok ()
    let first (set : List Char) : List Char :=
      if complement then ((List.range 256).map Char.ofNat).filter fun c => !set.contains c else set
    match sets with
    | [] => misuse i 1 "missing operand"
    | [set] =>
      let set := first set
      if w.has 'd' then filter fun cs => cs.filter fun c => !set.contains c
      else if w.has 's' then filter (squeeze set.contains)
      else do
        complain i s!"missing operand after '{wordAt w.operands 0}'"
        Action.complain "Two strings must be given when translating.\n"
        Action.complain s!"Try '{i.name} --help' for more information.\n"
        return 1
    | source :: target :: _ =>
      let source := first source
      if w.has 'd' then filter fun cs => squeeze target.contains (cs.filter fun c => !source.contains c)
      else filter fun cs =>
        let cs := cs.map (translate source target)
        if w.has 's' then squeeze target.contains cs else cs

/-! ### Lines -/

/-- The positions of a list such as `1,3-5`: each range from its first to its last position. -/
def positions (text : String) : Option (List (Nat × Option Nat)) :=
  (text.splitOn ",").mapM fun part =>
    match part.splitOn "-" with
    | [n] => n.toNat?.map fun n => (n, some n)
    | [a, b] =>
      if a.isEmpty && b.isEmpty then none
      else match (if a.isEmpty then some 1 else a.toNat?), (if b.isEmpty then some none else b.toNat?.map some) with
        | some a, some b => some (a, b)
        | _, _ => none
    | _ => none

def isAmong (ranges : List (Nat × Option Nat)) (n : Nat) : Bool :=
  ranges.any fun (a, b) => a ≤ n && b.all (n ≤ ·)

def pick (ranges : List (Nat × Option Nat)) (items : List α) : List α :=
  (items.zipIdx.filter fun (_, n) => isAmong ranges (n + 1)).map (·.1)

def cut (i : Invocation) : Action Nat :=
  withWords i [setting 'd' "delimiter", setting 'f' "fields", setting 'c' "characters", setting 'b' "bytes",
    switch 's' "only-delimited"] true 1 fun w => do
    let list := (w.argument? 'f').orElse fun _ => (w.argument? 'c').orElse fun _ => w.argument? 'b'
    match list.map positions with
    | none => misuse i 1 "you must specify a list of bytes, characters, or fields"
    | some none => misuse i 1 s!"invalid field value '{list.getD default}'"
    | some (some ranges) =>
      let separator := (w.argument? 'd').getD "\t"
      let change (line : String) : Option String :=
        if w.has 'f' then
          let fields := line.splitOn separator
          if fields.length ≤ 1 then (if w.has 's' then none else some line)
          else some (separator.intercalate (pick ranges fields))
        else some (String.ofList (pick ranges line.toList))
      overInputs i w.operands fun _ content => put (unlines ((linesOf content).filterMap change))

def rev (i : Invocation) : Action Nat :=
  overInputs i i.args fun _ content => put (mapLines (·.map fun l => String.ofList l.toList.reverse) content)

def tac (i : Invocation) : Action Nat :=
  overInputs i i.args fun _ content => put (String.join (endedLines content).reverse)

/-- Runs of equal lines with their lengths. -/
def runs (same : String → String → Bool) (lines : List String) : List (String × Nat) :=
  lines.foldr (fun line groups =>
    match groups with
    | (first, n) :: rest => if same line first then (line, n + 1) :: rest else (line, 1) :: groups
    | [] => [(line, 1)]) []

def uniq (i : Invocation) : Action Nat :=
  withWords i [switch 'c' "count", switch 'd' "repeated", switch 'u' "unique", switch 'i' "ignore-case"] true 1 fun w =>
    overInputs i (w.operands.take 1) fun _ content => do
      let same (a b : String) : Bool := a = b || (w.has 'i' && a.toLower = b.toLower)
      let shown := (runs same (linesOf content)).filter fun (_, n) =>
        (!w.has 'd' || 1 < n) && (!w.has 'u' || n = 1)
      put (unlines (shown.map fun (line, n) => if w.has 'c' then padStart 7 (toString n) ++ " " ++ line else line))

/-! ### Order -/

/-- The number at the front of a text, in thousandths. -/
def leadingNumber (text : String) : Int :=
  let cs := text.toList.dropWhile isSpace
  let (negative, cs) := match cs with
    | '-' :: rest => (true, rest)
    | cs => (false, cs)
  let whole := cs.takeWhile Char.isDigit
  let fraction := match cs.drop whole.length with
    | '.' :: rest => rest.takeWhile Char.isDigit
    | _ => []
  let n : Int := ((digits? (whole ++ (fraction ++ ['0', '0', '0']).take 3)).getD 0 : Nat)
  if negative then -n else n

/-- A key by which lines are compared. -/
structure SortKey where
  first : Nat
  last : Option Nat
  numeric : Bool
  reversed : Bool
  folded : Bool
  skipsBlanks : Bool

/-- The fields of a line; without a separator each begins with the blanks before it. -/
def sortFields (separator : Option String) (line : String) : List String :=
  match separator with
  | some s => line.splitOn s
  | none =>
    (line.toList.foldl (fun (fields : List (List Char)) c =>
      match fields with
      | f :: rest =>
        if (c = ' ' || c = '\t') && f.any fun d => d ≠ ' ' && d ≠ '\t' then [c] :: f :: rest else (c :: f) :: rest
      | [] => [[c]]) []).reverse.map fun f => String.ofList f.reverse

def SortKey.text (k : SortKey) (separator : Option String) (line : String) : String :=
  if k.first = 0 then line
  else
    let fields := (sortFields separator line).drop (k.first - 1)
    let fields := match k.last with
      | some last => fields.take (last + 1 - k.first)
      | none => fields
    (separator.getD "").intercalate fields

def SortKey.compare (k : SortKey) (separator : Option String) (a b : String) : Ordering :=
  let x := k.text separator a
  let y := k.text separator b
  let clean (t : String) : String :=
    let t := if k.skipsBlanks then String.ofList (t.toList.dropWhile isSpace) else t
    if k.folded then t.toUpper else t
  let order := if k.numeric then Ord.compare (leadingNumber x) (leadingNumber y) else Ord.compare (clean x) (clean y)
  if k.reversed then order.swap else order

def sortKey? (w : Words) (text : String) : Option SortKey :=
  let place (t : String) : Option (Nat × List Char) :=
    let ds := t.toList.takeWhile Char.isDigit
    let rest := t.toList.drop ds.length
    let rest := match rest with
      | '.' :: more => more.dropWhile Char.isDigit
      | rest => rest
    (digits? ds).map (·, rest)
  let key (first : Nat) (last : Option Nat) (letters : List Char) : SortKey :=
    let has (c : Char) : Bool := if letters.isEmpty then w.has c else letters.contains c
    ⟨first, last, has 'n', has 'r', has 'f', has 'b'⟩
  match text.splitOn "," with
  | [a] => (place a).map fun (n, letters) => key n none letters
  | [a, b] =>
    match place a, place b with
    | some (n, x), some (m, y) => some (key n (some m) (x ++ y))
    | _, _ => none
  | _ => none

def sort (i : Invocation) : Action Nat :=
  withWords i
    [switch 'n' "numeric-sort", switch 'r' "reverse", switch 'u' "unique", switch 'f' "ignore-case",
      switch 'b' "ignore-leading-blanks", setting 'k' "key", setting 't' "field-separator", switch 's' "stable",
      setting 'o' "output", switch 'c' "check", switch 'm' "merge"] true 2 fun w => do
    let keyTexts := (w.options.filter fun o => o.1 = 'k').map (·.2)
    let paths := if w.operands.isEmpty then ["-"] else w.operands
    let contents ← paths.mapM fun path => do return (path, ← contentOf path)
    match contents.findSome? fun (path, c) => match c with
      | .error e => some (path, e)
      | .ok _ => none with
    | some (path, e) => failWith i 2 s!"cannot read: {path}: {e.message}"
    | none =>
      match keyTexts.find? fun t => (sortKey? w t).isNone with
      | some t => failWith i 2 s!"invalid number at field start: invalid count at start of '{t}'"
      | none =>
        let lines := contents.flatMap fun (_, c) => linesOf (c.toOption.getD "")
        let keys := keyTexts.filterMap (sortKey? w)
        let whole : SortKey := ⟨0, none, w.has 'n', w.has 'r', w.has 'f', w.has 'b'⟩
        let keys := if keys.isEmpty then [whole] else keys
        let byKeys (a b : String) : Ordering :=
          keys.foldl (fun o k => o.then (k.compare (w.argument? 't') a b)) .eq
        let last (a b : String) : Ordering := if w.has 'r' then (Ord.compare a b).swap else Ord.compare a b
        let order (a b : String) : Ordering :=
          if w.has 'u' || w.has 's' then byKeys a b else (byKeys a b).then (last a b)
        let sorted := lines.mergeSort fun a b => order a b ≠ .gt
        let sorted := if w.has 'u' then
            (sorted.foldl (fun (kept : List String) line =>
              match kept with
              | former :: _ => if byKeys former line = .eq then kept else line :: kept
              | [] => [line]) []).reverse
          else sorted
        match w.argument? 'o' with
        | none => output i (unlines sorted)
        | some path =>
          match ← ask (.openFile path .writing) with
          | .error e => failWith i 2 s!"open failed: {path}: {e.message}"
          | .ok file =>
            let _ ← write file (unlines sorted)
            return 0

/-! ### Numbers -/

/-- A decimal number: its value in units of the last digit, and how many digits follow the point. -/
structure Measure where
  value : Int
  places : Nat

def measure? (text : String) : Option Measure :=
  let (negative, cs) := match text.toList with
    | '-' :: rest => (true, rest)
    | '+' :: rest => (false, rest)
    | cs => (false, cs)
  let whole := cs.takeWhile Char.isDigit
  let fraction? : Option (List Char) := match cs.drop whole.length with
    | [] => some []
    | '.' :: rest => if rest.all Char.isDigit then some rest else none
    | _ => none
  fraction?.bind fun fraction =>
    (digits? (whole ++ fraction)).map fun n => ⟨if negative then -(n : Int) else n, fraction.length⟩

def Measure.scaled (m : Measure) (places : Nat) : Int := m.value * (10 ^ (places - m.places) : Nat)

/-- A number of units as a decimal. -/
def decimalText (places : Nat) (n : Int) : String :=
  let digits := (toString n.natAbs).toList
  let digits := List.replicate (places + 1 - digits.length) '0' ++ digits
  let whole := digits.take (digits.length - places)
  let sign := if n < 0 then "-" else ""
  sign ++ String.ofList whole ++
    (if places = 0 then "" else "." ++ String.ofList (digits.drop whole.length))

def zeroFilled (width : Nat) (text : String) : String :=
  match text.toList with
  | '-' :: cs => "-" ++ String.ofList (List.replicate (width - 1 - cs.length) '0' ++ cs)
  | cs => String.ofList (List.replicate (width - cs.length) '0' ++ cs)

/-- Words in which a negative number is told from an option. -/
def shieldNumbers : List String → List String
  | [] => []
  | word :: rest =>
    if !word.startsWith "-" then word :: rest
    else if (measure? word).isSome then "--" :: word :: rest
    else word :: shieldNumbers rest

def seq (i : Invocation) : Action Nat :=
  withWords { i with args := shieldNumbers i.args }
    [setting 's' "separator", switch 'w' "equal-width", setting 'f' "format"] false 1 fun w =>
    match w.operands.find? fun t => (measure? t).isNone with
    | some t => misuse i 1 s!"invalid floating point argument: '{t}'"
    | none =>
      match w.operands.filterMap measure? with
      | [] => misuse i 1 "missing operand"
      | first :: second =>
        let one : Measure := ⟨1, 0⟩
        let (first, step, last) := match second with
          | [] => (one, one, first)
          | [last] => (first, one, last)
          | step :: last :: _ => (first, step, last)
        if 3 < w.operands.length then misuse i 1 s!"extra operand '{wordAt w.operands 3}'"
        else if step.value = 0 then
          misuse i 1 s!"invalid Zero increment value: '{wordAt w.operands 1}'"
        else
          let scale := max (max first.places step.places) last.places
          let places := max first.places step.places
          let a := first.scaled scale
          let d := step.scaled scale
          let b := last.scaled scale
          let count := if (0 < d ∧ b < a) ∨ (d < 0 ∧ a < b) then 0 else ((b - a) / d).toNat + 1
          let unit : Int := (10 ^ (scale - places) : Nat)
          let texts := (List.range count).map fun (n : Nat) => decimalText places ((a + d * (n : Int)) / unit)
          let width := (texts.map String.length).foldl max 0
          let texts := if w.has 'w' then texts.map (zeroFilled width) else texts
          let texts := match w.argument? 'f' with
            | some format => texts.map fun t => String.ofList (Shell.fillFormat format [t]).output.reverse
            | none => texts
          if texts.isEmpty then pure 0
          else output i (((w.argument? 's').getD "\n").intercalate texts ++ "\n")

end KernelAudit.Tool
