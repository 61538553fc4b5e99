/-! Patterns for texts: a star for any run of characters, a question mark for any character, and brackets
    for one of a set. A character that is quoted, or stands after a backslash, only stands for itself. -/

namespace KernelAudit.Shell

/-- A character of a pattern; one that is literal has no special meaning. -/
structure PatternChar where
  char : Char
  literal : Bool
  deriving DecidableEq, Repr

/-- What a set of characters is made of. -/
inductive SetMember where
  | range (low high : Char)
  | named (name : String)
  deriving DecidableEq, Repr

inductive PatternItem where
  | anyRun
  | anyChar
  | set (inverted : Bool) (members : List SetMember)
  | char (c : Char)
  deriving DecidableEq, Repr

abbrev Pattern := List PatternItem

namespace SetMember

/-- The characters that have a name together. -/
def isNamed (name : String) (c : Char) : Bool :=
  let isPrinted : Bool := 0x20 < c.toNat && c.toNat < 0x7f
  match name with
  | "alpha" => c.isAlpha
  | "digit" => c.isDigit
  | "alnum" => c.isAlphanum
  | "upper" => c.isUpper
  | "lower" => c.isLower
  | "space" => c = ' ' || (9 ≤ c.toNat && c.toNat ≤ 13)
  | "blank" => c = ' ' || c = '\t'
  | "punct" => isPrinted && !c.isAlphanum
  | "print" => isPrinted || c = ' '
  | "graph" => isPrinted
  | "cntrl" => c.toNat < 0x20 || c.toNat = 0x7f
  | "xdigit" => c.isDigit || ('a' ≤ c && c ≤ 'f') || ('A' ≤ c && c ≤ 'F')
  | _ => false

def contains (m : SetMember) (c : Char) : Bool :=
  match m with
  | range low high => decide (low ≤ c ∧ c ≤ high)
  | named name => isNamed name c

end SetMember

namespace Pattern

/-- Takes a backslash together with the character that it protects. -/
def unescape : List PatternChar → List PatternChar
  | [] => []
  | [c] => [c]
  | c :: d :: rest =>
    if c.char = '\\' && !c.literal then ⟨d.char, true⟩ :: unescape rest else c :: unescape (d :: rest)

/-- The name of a class of characters at the front, after its opening. -/
def className (seen : List Char) : List PatternChar → Option (String × List PatternChar)
  | ⟨':', false⟩ :: ⟨']', false⟩ :: rest => some (String.ofList seen.reverse, rest)
  | c :: rest => if c.char.isAlpha then className (c.char :: seen) rest else none
  | [] => none

/-- The members of a set up to its closing bracket. A bracket right at the front is a member. -/
def setMembers : (fuel : Nat) → (atFront : Bool) → List PatternChar → List SetMember →
    Option (List SetMember × List PatternChar)
  | 0, _, _, _ => none
  | _, _, [], _ => none
  | fuel + 1, atFront, c :: rest, members =>
    if c = ⟨']', false⟩ && !atFront then some (members.reverse, rest)
    else
      let named := match c, rest with
        | ⟨'[', false⟩, ⟨':', false⟩ :: rest => className [] rest
        | _, _ => none
      match named with
      | some (name, rest) => setMembers fuel false rest (.named name :: members)
      | none =>
        match rest with
        | ⟨'-', false⟩ :: high :: others =>
          if high = ⟨']', false⟩ then setMembers fuel false rest (.range c.char c.char :: members)
          else setMembers fuel false others (.range c.char high.char :: members)
        | _ => setMembers fuel false rest (.range c.char c.char :: members)

/-- A set after its opening bracket. -/
def set? (cs : List PatternChar) : Option (PatternItem × List PatternChar) :=
  let (inverted, cs) := match cs with
    | ⟨'!', false⟩ :: rest | ⟨'^', false⟩ :: rest => (true, rest)
    | cs => (false, cs)
  (setMembers (cs.length + 1) true cs []).map fun (members, rest) => (.set inverted members, rest)

def itemsFrom : (fuel : Nat) → List PatternChar → Pattern
  | 0, _ => []
  | _, [] => []
  | fuel + 1, c :: rest =>
    if c.literal then .char c.char :: itemsFrom fuel rest
    else match c.char with
      | '*' => .anyRun :: itemsFrom fuel rest
      | '?' => .anyChar :: itemsFrom fuel rest
      | '[' =>
        match set? rest with
        | some (item, rest) => item :: itemsFrom fuel rest
        | none => .char '[' :: itemsFrom fuel rest
      | c => .char c :: itemsFrom fuel rest

/-- The pattern that some characters spell. -/
def ofChars (cs : List PatternChar) : Pattern :=
  let cs := unescape cs
  itemsFrom cs.length cs

def suffixes : List α → List (List α)
  | [] => [[]]
  | a :: rest => (a :: rest) :: suffixes rest

/-- Whether a text is of the form that the pattern describes. -/
def isMatch : Pattern → List Char → Bool
  | [], cs => cs.isEmpty
  | .anyRun :: rest, cs => rest.isEmpty || (suffixes cs).any (isMatch rest)
  | .anyChar :: rest, _ :: cs => isMatch rest cs
  | .set inverted members :: rest, c :: cs => (members.any (·.contains c) != inverted) && isMatch rest cs
  | .char d :: rest, c :: cs => c = d && isMatch rest cs
  | _ :: _, [] => false

/-- Whether the pattern describes more than one text. -/
def isOpen (p : Pattern) : Bool :=
  p.any fun
    | .char _ => false
    | _ => true

/-! ### Parts of texts

Several texts can stand one behind the other, with a boundary where one ends. A pattern is held against
what is left of the first of them. -/

/-- The text up to the first boundary. -/
def firstText (cs : List (Option Char)) : List Char := (cs.takeWhile Option.isSome).filterMap id

/-- Where to cut off the part at the front that the pattern describes. -/
def frontCut? (p : Pattern) (longest : Bool) (cs : List (Option Char)) : Option Nat :=
  let cuts := if longest then (List.range (cs.length + 1)).reverse else List.range ((firstText cs).length + 1)
  cuts.find? fun n => isMatch p (firstText (cs.take n))

/-- Where to cut off the part at the end that the pattern describes. -/
def backCut? (p : Pattern) (longest : Bool) (cs : List (Option Char)) : Option Nat :=
  let cuts := if longest then List.range ((firstText cs).length + 1) else (List.range (cs.length + 1)).reverse
  cuts.find? fun n => isMatch p (firstText (cs.drop n))

end Pattern

end KernelAudit.Shell
