import KernelAudit.Shell.Pattern

/-! Regular expressions as the tools read them: basic ones, in which some signs need a backslash to be
    operators, and extended ones. Among the matches that begin first the longest one counts. -/

namespace KernelAudit.Tool

open Shell (SetMember)

inductive Regex where
  | empty
  | char (c : Char)
  | any
  | set (negated : Bool) (members : List SetMember)
  | lineStart
  | lineEnd
  | sequence (a b : Regex)
  | either (a b : Regex)
  | repeated (a : Regex) (least : Nat) (most : Option Nat)
  | group (number : Nat) (a : Regex)

namespace Regex

/-! ### Matching -/

/-- How far a match has come. -/
structure Progress where
  position : Nat
  rest : List Char
  /-- The groups that have been matched: where each begins and ends. -/
  groups : List (Nat × Nat × Nat)

/-- Leaves out what ends where something before it does. -/
def distinct (ps : List Progress) : List Progress :=
  (ps.foldl (fun kept p => if kept.any (·.position = p.position) then kept else p :: kept) []).reverse

def sameLetter (ignoresCase : Bool) (a b : Char) : Bool :=
  a = b || (ignoresCase && a.toLower = b.toLower)

def inSet (ignoresCase : Bool) (members : List SetMember) (c : Char) : Bool :=
  members.any fun m => m.contains c || (ignoresCase && (m.contains c.toLower || m.contains c.toUpper))

/-- All ways in which an expression can match from some point on, longer ones first where there is a
    choice. -/
def ways (ignoresCase : Bool) : (fuel : Nat) → Regex → Progress → List Progress
  | 0, _, _ => []
  | fuel + 1, r, p =>
    let next (test : Char → Bool) : List Progress :=
      match p.rest with
      | c :: rest => if test c then [{ p with position := p.position + 1, rest }] else []
      | [] => []
    match r with
    | empty => [p]
    | char c => next (sameLetter ignoresCase c)
    | any => next fun _ => true
    | set negated members => next fun c => inSet ignoresCase members c ≠ negated
    | lineStart => if p.position = 0 then [p] else []
    | lineEnd => if p.rest.isEmpty then [p] else []
    | sequence a b => distinct ((ways ignoresCase fuel a p).flatMap (ways ignoresCase fuel b))
    | either a b => distinct (ways ignoresCase fuel a p ++ ways ignoresCase fuel b p)
    | repeated a least most =>
      let more : List Progress :=
        if most = some 0 then []
        else ((ways ignoresCase fuel a p).filter fun q => q.position ≠ p.position || 0 < least).flatMap fun q =>
          ways ignoresCase fuel (repeated a (least - 1) (most.map (· - 1))) q
      distinct (if least = 0 then more ++ [p] else more)
    | group n a =>
      (ways ignoresCase fuel a p).map fun q => { q with groups := (n, p.position, q.position) :: q.groups }

/-- The longest match at a point. -/
def matchAt (ignoresCase : Bool) (r : Regex) (position : Nat) (rest : List Char) : Option Progress :=
  (ways ignoresCase (2000 + 4 * rest.length) r ⟨position, rest, []⟩).foldl (fun best p =>
    match best with
    | some b => if b.position < p.position then some p else best
    | none => some p) none

/-- The first match from a point on: where it begins, and how far it goes. -/
def search (ignoresCase : Bool) (r : Regex) : (position : Nat) → List Char → Option (Nat × Progress)
  | position, [] => (matchAt ignoresCase r position []).map (position, ·)
  | position, c :: rest =>
    match matchAt ignoresCase r position (c :: rest) with
    | some p => some (position, p)
    | none => search ignoresCase r (position + 1) rest

/-! ### Reading -/

/-- What is being read: the text that is left, and the number of the last group. -/
structure Source where
  rest : List Char
  groups : Nat

/-- A set in brackets, whose opening one has been read. -/
def readSet (text : List Char) : Option (Regex × List Char) :=
  let (negated, text) := match text with
    | '^' :: rest => (true, rest)
    | _ => (false, text)
  let chars := text.map fun c => (⟨c, c = '\\'⟩ : Shell.PatternChar)
  (Shell.Pattern.setMembers (chars.length + 1) true chars []).map fun (members, rest) =>
    (set negated members, rest.map (·.char))

/-- The bounds of a repetition in braces, whose opening one has been read. -/
def readBounds (closes : List Char) (text : List Char) : Option (Nat × Option Nat × List Char) :=
  let least := text.takeWhile Char.isDigit
  let rest := text.drop least.length
  let number (cs : List Char) : Option Nat := (String.ofList cs).toNat?
  let close (rest : List Char) : Option (List Char) :=
    if rest.take closes.length = closes then some (rest.drop closes.length) else none
  match rest with
  | ',' :: rest =>
    let most := rest.takeWhile Char.isDigit
    (close (rest.drop most.length)).map fun rest => ((number least).getD 0, number most, rest)
  | _ => (close rest).bind fun rest => (number least).map fun n => (n, some n, rest)

/-- A repetition sign at the front of a text. -/
def readRepetition (extended : Bool) (text : List Char) : Option (Nat × Option Nat × List Char) :=
  match extended, text with
  | _, '*' :: rest => some (0, none, rest)
  | true, '+' :: rest | false, '\\' :: '+' :: rest => some (1, none, rest)
  | true, '?' :: rest | false, '\\' :: '?' :: rest => some (0, some 1, rest)
  | true, '\x7b' :: rest => readBounds ['\x7d'] rest
  | false, '\\' :: '\x7b' :: rest => readBounds ['\\', '\x7d'] rest
  | _, _ => none

mutual

/-- An expression with its alternatives. -/
def readChoice (extended : Bool) : (fuel : Nat) → Source → Option (Regex × Source)
  | 0, _ => none
  | fuel + 1, s => do
    let (first, s) ← readSequence extended fuel true s
    let more := if extended then (match s.rest with
        | '|' :: rest => some rest
        | _ => none)
      else match s.rest with
        | '\\' :: '|' :: rest => some rest
        | _ => none
    match more with
    | none => return (first, s)
    | some rest => do
      let (second, s) ← readChoice extended fuel { s with rest }
      return (either first second, s)

/-- Pieces one after the other. -/
def readSequence (extended : Bool) : (fuel : Nat) → (atFront : Bool) → Source → Option (Regex × Source)
  | 0, _, _ => none
  | fuel + 1, atFront, s => do
    let isEnd : Bool := match extended, s.rest with
      | _, [] => true
      | true, '|' :: _ | true, ')' :: _ | false, '\\' :: '|' :: _ | false, '\\' :: ')' :: _ => true
      | _, _ => false
    if isEnd then return (empty, s)
    let (piece, s) ← readPiece extended fuel atFront s
    let (piece, s) := readRepetitions extended fuel piece s
    let (more, s) ← readSequence extended fuel false s
    return (sequence piece more, s)

def readRepetitions (extended : Bool) : (fuel : Nat) → Regex → Source → Regex × Source
  | 0, r, s => (r, s)
  | fuel + 1, r, s =>
    match r, readRepetition extended s.rest with
    | lineStart, _ => (r, s)
    | r, some (least, most, rest) => readRepetitions extended fuel (repeated r least most) { s with rest }
    | r, none => (r, s)

def readPiece (extended : Bool) : (fuel : Nat) → (atFront : Bool) → Source → Option (Regex × Source)
  | 0, _, _ => none
  | fuel + 1, atFront, s => do
    let open? := match extended, s.rest with
      | true, '(' :: rest | false, '\\' :: '(' :: rest => some rest
      | _, _ => none
    match open? with
    | some rest =>
      let n := s.groups + 1
      let (inner, s) ← readChoice extended fuel ⟨rest, n⟩
      match extended, s.rest with
      | true, ')' :: rest | false, '\\' :: ')' :: rest => return (group n inner, { s with rest })
      | _, _ => none
    | none =>
      match s.rest with
      | [] => return (empty, s)
      | '.' :: rest => return (any, { s with rest })
      | '[' :: rest => do
        let (r, rest) ← readSet rest
        return (r, { s with rest })
      | '^' :: rest => return (if atFront || extended then lineStart else char '^', { s with rest })
      | '$' :: rest =>
        let isLast : Bool := match extended, rest with
          | _, [] | true, _ | false, '\\' :: ')' :: _ | false, '\\' :: '|' :: _ => true
          | _, _ => false
        return (if isLast then lineEnd else char '$', { s with rest })
      | '\\' :: c :: rest => return (escaped c, { s with rest })
      | c :: rest => return (char c, { s with rest })
where
  escaped : Char → Regex
    | 'n' => .char '\n'
    | 't' => .char '\t'
    | 'w' => .set false [.range 'a' 'z', .range 'A' 'Z', .range '0' '9', .range '_' '_']
    | 's' => .set false [.range ' ' ' ', .range '\t' '\t']
    | c => .char c

end

/-- Reads an expression, if it is one. -/
def read (extended : Bool) (text : String) : Option Regex :=
  match readChoice extended (20 * text.length + 20) ⟨text.toList, 0⟩ with
  | some (r, ⟨[], _⟩) => some r
  | _ => none

end Regex

end KernelAudit.Tool
