import KernelAudit.Shell.Files

/-! Conditions: what a test of texts, numbers and files comes to. Up to four words are read by their
    number; in longer ones negation binds closest, then conjunction, then disjunction. -/

namespace KernelAudit.Shell

open Machine

namespace Condition

def unaryOperators : List String :=
  ["-r", "-w", "-x", "-e", "-f", "-d", "-c", "-b", "-p", "-u", "-g", "-k", "-s", "-t", "-z", "-n", "-h",
    "-O", "-G", "-L", "-S"]

def binaryOperators : List String :=
  ["=", "!=", "<", ">", "-eq", "-ne", "-ge", "-gt", "-le", "-lt", "-nt", "-ot", "-ef"]

/-- What a word is in a condition. -/
inductive Lexeme where
  | finish
  | operand
  | unary
  | binary
  | not
  | and
  | or
  | open
  | close
  deriving DecidableEq, Repr

def kind (word : String) : Lexeme :=
  if unaryOperators.contains word then .unary
  else if binaryOperators.contains word then .binary
  else match word with
    | "!" => .not
    | "-a" => .and
    | "-o" => .or
    | "(" => .open
    | ")" => .close
    | _ => .operand

/-- What the first of some words is, which depends on those behind it. -/
def lexeme : List String → Lexeme
  | [] => .finish
  | word :: rest =>
    match kind word, rest with
    | .unary, [] => .operand
    | .unary, [_] => .unary
    | .unary, next :: _ => if kind next = .binary then .operand else .unary
    | .open, [] => .operand
    | k, _ => k

def bad (operator message : String) : Session α :=
  Session.fail (if operator.isEmpty then message else operator ++ ": " ++ message)

/-- The number that a word is. -/
def number (word : String) : Session Int := do
  match Arithmetic.number? (some 10) word with
  | some n => return n.toInt
  | none => Session.fail s!"Illegal number: {word}"

/-! ### Files -/

def statusOf (path : String) (follow : Bool) : Session (Option Machine.Status) := do
  return (← Session.ask (.status path follow)).toOption

/-- Whether a file is of the kind that an operator asks for. -/
def holdsOfFile (operator path : String) : Session Bool := do
  let is (p : Machine.Status → Bool) : Session Bool := do return (← statusOf path true).any p
  match operator with
  | "-d" => is (·.kind = .directory)
  | "-f" => is (·.kind = .regular)
  | "-c" => is (·.kind = .characters)
  | "-p" => is (·.kind = .queue)
  | "-b" | "-S" => return false
  | "-h" | "-L" => return (← statusOf path false).any (·.kind = .link)
  | "-s" => is (0 < ·.size)
  | "-u" => is fun s => s.mode &&& 0o4000 ≠ 0
  | "-g" => is fun s => s.mode &&& 0o2000 ≠ 0
  | "-k" => is fun s => s.mode &&& 0o1000 ≠ 0
  | "-x" => is fun s => s.kind = .directory || s.mode &&& 0o111 ≠ 0
  | _ => is fun _ => true

/-- The truth of an operator with one word. -/
def unaryHolds (operator word : String) : Session Bool := do
  match operator with
  | "-z" => return word.isEmpty
  | "-n" => return !word.isEmpty
  | "-t" => do
    let _ ← number word
    return false
  | _ => holdsOfFile operator word

/-- The truth of an operator between two words. -/
def binaryHolds (operator a b : String) : Session Bool := do
  let numbers (p : Int → Int → Bool) : Session Bool := do
    let x ← number a
    let y ← number b
    return p x y
  let times (p : Nat → Nat → Bool) : Session Bool := do
    match ← statusOf a true, ← statusOf b true with
    | some s, some t => return p s.modified t.modified
    | _, _ => return false
  match operator with
  | "!=" => return a ≠ b
  | "<" => return a < b
  | ">" => return b < a
  | "-eq" => numbers fun x y => x = y
  | "-ne" => numbers fun x y => x ≠ y
  | "-ge" => numbers fun x y => y ≤ x
  | "-gt" => numbers fun x y => y < x
  | "-le" => numbers fun x y => x ≤ y
  | "-lt" => numbers fun x y => x < y
  | "-nt" => times fun x y => y < x
  | "-ot" => times fun x y => x < y
  | "-ef" =>
    match ← statusOf a true, ← statusOf b true with
    | some s, some t => return s.node = t.node && s.kind = t.kind
    | _, _ => return false
  | _ => return a = b

/-! ### Whole conditions

Each function reads from the front of the words and gives the words from its last one on. -/

mutual

def primary : (fuel : Nat) → Lexeme → List String → Session (Bool × List String)
  | 0, _, words => return (false, words)
  | fuel + 1, k, words => do
    match k, words with
    | .finish, _ | _, [] => return (false, words)
    | .open, _ :: rest =>
      match lexeme rest with
      | .close => return (false, rest)
      | k =>
        let (value, rest) ← disjunction fuel k rest
        match rest with
        | _ :: next :: more =>
          if lexeme (next :: more) ≠ .close then bad "" "closing paren expected"
          return (value, next :: more)
        | _ => bad "" "closing paren expected"
    | .unary, operator :: rest =>
      match rest with
      | [] => bad operator "argument expected"
      | word :: more => return (← unaryHolds operator word, word :: more)
    | _, word :: rest =>
      match rest with
      | operator :: more =>
        if kind operator = .binary then
          match more with
          | [] => bad operator "argument expected"
          | b :: others => return (← binaryHolds operator word b, b :: others)
        else return (!word.isEmpty, words)
      | [] => return (!word.isEmpty, words)

def negation : (fuel : Nat) → Lexeme → List String → Session (Bool × List String)
  | 0, _, words => return (false, words)
  | fuel + 1, .not, words => do
    let k := lexeme words.tail
    let (value, rest) ← negation fuel k (if k = .finish then words else words.tail)
    return (!value, rest)
  | fuel + 1, k, words => primary fuel k words

def conjunction : (fuel : Nat) → Lexeme → List String → Session (Bool × List String)
  | 0, _, words => return (false, words)
  | fuel + 1, k, words => do
    let (first, rest) ← negation fuel k words
    if lexeme rest.tail = .and then
      let (second, rest) ← conjunction fuel (lexeme (rest.drop 2)) (rest.drop 2)
      return (first && second, rest)
    else return (first, rest)

def disjunction : (fuel : Nat) → Lexeme → List String → Session (Bool × List String)
  | 0, _, words => return (false, words)
  | fuel + 1, k, words => do
    let (first, rest) ← conjunction fuel k words
    if lexeme rest.tail = .or then
      let (second, rest) ← disjunction fuel (lexeme (rest.drop 2)) (rest.drop 2)
      return (first || second, rest)
    else return (first, rest)

end

def whole (k : Lexeme) (words : List String) : Session Bool := do
  let (value, rest) ← disjunction (4 * words.length + 8) k words
  match rest with
  | word :: _ :: _ => bad word "unexpected operator"
  | _ => return value

/-- The truth of the words of a condition. -/
def holds : (fuel : Nat) → List String → Session Bool
  | 0, _ => return false
  | fuel + 1, words => do
    let isBinary : Bool := words.length = 3 && (words[1]?.any fun w => kind w = .binary)
    if words.isEmpty then return false
    else if isBinary then whole .operand words
    else if words.length = 3 || words.length = 4 then
      if words.head? = some "(" && words.getLast? = some ")" then
        let inner := words.tail.dropLast
        whole (lexeme inner) inner
      else if words.head? = some "!" then return !(← holds fuel words.tail)
      else whole (lexeme words) words
    else whole (lexeme words) words

/-- The status of a test. One that is called by its bracket needs the closing one. -/
def status (name : String) (words : List String) : Session Nat := do
  let holdsFor (words : List String) : Session Nat := do
    return if ← holds (words.length + 1) words then 0 else 1
  if name = "[" then
    if words.getLast? = some "]" then holdsFor words.dropLast else Session.fail "missing ]"
  else holdsFor words

end Condition

end KernelAudit.Shell
