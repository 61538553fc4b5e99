/-! Arithmetic in scripts: whole numbers of sixty-four bits with the operators and the precedence that
    are usual for them. An expression is evaluated as it is read; a part that does not count is read
    only. -/

namespace KernelAudit.Shell

/-- Why an expression has no value. -/
inductive ArithmeticProblem where
  /-- Something is wrong with the expression. -/
  | flaw (description : String)
  /-- A variable does not hold a number. -/
  | badNumber (text : String)
  /-- The smallest number divided by minus one. -/
  | overflow
  deriving DecidableEq, Repr

namespace Arithmetic

/-! ### Numbers -/

def isBlank (c : Char) : Bool := c = ' ' || (9 ≤ c.toNat && c.toNat ≤ 13)

def digitValue (c : Char) : Nat :=
  if c.isDigit then c.toNat - 48
  else if 'a' ≤ c ∧ c ≤ 'z' then c.toNat - 87
  else if 'A' ≤ c ∧ c ≤ 'Z' then c.toNat - 55
  else 99

/-- The digits of a base at the front of a text: their value and what is left. -/
def readDigits (base : Nat) : Nat → List Char → Nat × List Char
  | value, [] => (value, [])
  | value, c :: rest =>
    if digitValue c < base then readDigits base (value * base + digitValue c) rest else (value, c :: rest)

/-- The number at the front of a text, which begins with a digit; its base shows in its first digits. -/
def readNumber (text : List Char) : Nat × List Char :=
  match text with
  | '0' :: x :: c :: rest =>
    if (x = 'x' || x = 'X') && digitValue c < 16 then readDigits 16 0 (c :: rest)
    else readDigits 8 0 text
  | '0' :: _ => readDigits 8 0 text
  | _ => readDigits 10 0 text

def largest : Int := 9223372036854775807
def smallest : Int := -9223372036854775808

/-- The nearest number that fits. -/
def clamp (n : Int) : Int64 := Int64.ofInt (max smallest (min largest n))

/-- A number with a sign, in a base or in the one that it shows: its value, whether it has digits, and
    what is left. -/
def readSigned (base : Option Nat) (text : List Char) : Int × Bool × List Char :=
  let text := text.dropWhile isBlank
  let (negative, digits) := match text with
    | '-' :: rest => (true, rest)
    | '+' :: rest => (false, rest)
    | _ => (false, text)
  match digits with
  | c :: _ =>
    if c.isDigit then
      let (n, rest) := match base with
        | some base => readDigits base 0 digits
        | none => readNumber digits
      (if negative then -(n : Int) else n, true, rest)
    else (0, false, text)
  | [] => (0, false, text)

/-- The number that a text is, blanks around it not counting. Only where a base shows in the digits, a
    text may have none. -/
def number? (base : Option Nat) (text : String) : Option Int64 :=
  let (n, any, rest) := readSigned base text.toList
  if (base.isNone || any) && (rest.dropWhile isBlank).isEmpty && smallest ≤ n && n ≤ largest then
    some (Int64.ofInt n)
  else none

/-! ### Tokens -/

inductive Lexeme where
  | finish
  | number (n : Int64)
  | name (s : String)
  | sign (s : String)
  | unknown
  deriving DecidableEq, Repr

/-- The operators, of which the longest that fits counts. -/
def signs : List String :=
  ["<<=", ">>=", "<<", ">>", "<=", ">=", "==", "!=", "&&", "||", "*=", "/=", "%=", "+=", "-=", "&=",
    "^=", "|=", "=", "<", ">", "|", "&", "!", "(", ")", "*", "/", "%", "+", "-", "~", "^", "?", ":"]

/-- The first token of a text, and what is left. -/
def lexeme (text : List Char) : Lexeme × List Char :=
  match text.dropWhile fun c => c = ' ' || c = '\t' || c = '\n' with
  | [] => (.finish, [])
  | c :: rest =>
    let text := c :: rest
    if c.isDigit then
      let (n, rest) := readNumber text
      (.number (clamp n), rest)
    else if c.isAlpha || c = '_' then
      let isPart (c : Char) : Bool := c.isAlphanum || c = '_'
      (.name (String.ofList (text.takeWhile isPart)), text.dropWhile isPart)
    else match signs.find? fun s => s.toList.isPrefixOf text with
      | some s => (.sign s, text.drop s.length)
      | none => (.unknown, text)

/-! ### Evaluation -/

/-- The precedence of an operator; a smaller number binds closer. -/
def precedence? : String → Option Nat
  | "*" | "/" | "%" => some 0
  | "+" | "-" => some 1
  | "<<" | ">>" => some 2
  | "<" | "<=" | ">" | ">=" => some 3
  | "==" | "!=" => some 4
  | "&" => some 5
  | "^" => some 6
  | "|" => some 7
  | _ => none

/-- The operator in an assignment that also computes. -/
def combined? : String → Option String
  | "*=" => some "*"
  | "/=" => some "/"
  | "%=" => some "%"
  | "+=" => some "+"
  | "-=" => some "-"
  | "<<=" => some "<<"
  | ">>=" => some ">>"
  | "&=" => some "&"
  | "^=" => some "^"
  | "|=" => some "|"
  | _ => none

def truth (b : Bool) : Int64 := if b then 1 else 0

def apply (operator : String) (a b : Int64) : Except ArithmeticProblem Int64 :=
  match operator with
  | "*" => .ok (a * b)
  | "/" | "%" =>
    if b = 0 then .error (.flaw "division by zero")
    else if b = -1 && a.toInt = smallest then .error .overflow
    else .ok (if operator = "/" then a / b else a % b)
  | "+" => .ok (a + b)
  | "-" => .ok (a - b)
  | "<<" => .ok (a <<< b)
  | ">>" => .ok (a >>> b)
  | "<" => .ok (truth (a < b))
  | "<=" => .ok (truth (a ≤ b))
  | ">" => .ok (truth (b < a))
  | ">=" => .ok (truth (b ≤ a))
  | "==" => .ok (truth (a = b))
  | "!=" => .ok (truth (a ≠ b))
  | "&" => .ok (a &&& b)
  | "^" => .ok (a ^^^ b)
  | _ => .ok (a ||| b)

/-- What an operator before a part makes of its value. -/
def unary? : String → Option (Int64 → Int64)
  | "+" => some id
  | "-" => some (- ·)
  | "!" => some fun a => truth (a = 0)
  | "~" => some (~~~ ·)
  | _ => none

/-- Where an evaluation is: the current token, what comes after it, and what has been assigned. -/
structure Progress where
  token : Lexeme
  rest : List Char
  assigned : List (String × Int64)

abbrev Eval := StateT Progress (Except ArithmeticProblem)

def advance : Eval Unit := modify fun p => let (token, rest) := lexeme p.rest; { p with token, rest }

/-- The value of a variable. -/
def valueOf (lookup : String → Option String) (name : String) : Eval Int64 := do
  match (← get).assigned.lookup name with
  | some n => return n
  | none =>
    let text := (lookup name).getD ""
    match number? none text with
    | some n => return n
    | none => throw (.badNumber text)

mutual

/-- The value of the part that the current token begins. `counts` is off in parts that are only read. -/
def primary (lookup : String → Option String) : (fuel : Nat) → (counts : Bool) → Eval Int64
  | 0, _ => throw (.flaw "expecting primary")
  | fuel + 1, counts => do
    match (← get).token with
    | .number n =>
      advance
      return n
    | .name name =>
      advance
      if counts then valueOf lookup name else return 0
    | .sign "(" =>
      advance
      let n ← assignment lookup fuel counts
      if (← get).token ≠ .sign ")" then throw (.flaw "expecting ')'")
      advance
      return n
    | .sign s =>
      match unary? s with
      | some f =>
        advance
        return f (← primary lookup fuel counts)
      | none => throw (.flaw "expecting primary")
    | _ => throw (.flaw "expecting primary")

/-- Goes on with operators that bind closer than a limit. -/
def operations (lookup : String → Option String) : (fuel limit : Nat) → (counts : Bool) → Int64 →
    Eval Int64
  | 0, _, _, a => pure a
  | fuel + 1, limit, counts, a => do
    match (← get).token with
    | .sign s =>
      match precedence? s with
      | none => return a
      | some level =>
        if limit ≤ level then return a
        else
          advance
          let b ← primary lookup fuel counts
          let b ← operations lookup fuel level counts b
          let c ← if counts then liftM (apply s a b) else pure b
          operations lookup fuel limit counts c
    | _ => return a

def conjunction (lookup : String → Option String) : (fuel : Nat) → (counts : Bool) → Eval Int64
  | 0, _ => throw (.flaw "expecting primary")
  | fuel + 1, counts => do
    let a ← operations lookup fuel 8 counts (← primary lookup fuel counts)
    if (← get).token ≠ .sign "&&" then return a
    advance
    let b ← conjunction lookup fuel (counts && a ≠ 0)
    return truth (a ≠ 0 && b ≠ 0)

def disjunction (lookup : String → Option String) : (fuel : Nat) → (counts : Bool) → Eval Int64
  | 0, _ => throw (.flaw "expecting primary")
  | fuel + 1, counts => do
    let a ← conjunction lookup fuel counts
    if (← get).token ≠ .sign "||" then return a
    advance
    let b ← disjunction lookup fuel (counts && a = 0)
    return truth (a ≠ 0 || b ≠ 0)

def choice (lookup : String → Option String) : (fuel : Nat) → (counts : Bool) → Eval Int64
  | 0, _ => throw (.flaw "expecting primary")
  | fuel + 1, counts => do
    let a ← disjunction lookup fuel counts
    if (← get).token ≠ .sign "?" then return a
    advance
    let b ← assignment lookup fuel (counts && a ≠ 0)
    if (← get).token ≠ .sign ":" then throw (.flaw "expecting ':'")
    advance
    let c ← choice lookup fuel (counts && a = 0)
    return if a ≠ 0 then b else c

def assignment (lookup : String → Option String) : (fuel : Nat) → (counts : Bool) → Eval Int64
  | 0, _ => throw (.flaw "expecting primary")
  | fuel + 1, counts => do
    let start ← get
    match start.token, lexeme start.rest with
    | .name name, (.sign s, _) =>
      if s = "=" || (combined? s).isSome then
        advance
        advance
        let b ← assignment lookup fuel counts
        if !counts then return b
        let value ← match combined? s with
          | none => pure b
          | some operator => do liftM (apply operator (← valueOf lookup name) b)
        modify fun p => { p with assigned := (name, value) :: p.assigned }
        return value
      else choice lookup fuel counts
    | _, _ => choice lookup fuel counts

end

/-- The value of an expression, and what is assigned in it, the last assignment first. -/
def evaluate (lookup : String → Option String) (text : String) :
    Except ArithmeticProblem (Int64 × List (String × Int64)) := do
  let whole : Eval Int64 := do
    advance
    let n ← assignment lookup (8 * text.length + 16) true
    if (← get).token ≠ .finish then throw (.flaw "expecting EOF")
    return n
  let (n, p) ← whole.run ⟨.finish, text.toList, []⟩
  return (n, p.assigned)

end Arithmetic

end KernelAudit.Shell
