import KernelAudit.Json.Basic

/-! Reading JSON text. Every text gives a tree; where the grammar is left, the tree says so and
    nothing behind that place is looked at. -/

namespace KernelAudit.Json

/-! ### Blanks and words -/

def isBlank (c : Char) : Bool := c = ' ' || c = '\t' || c = '\n' || c = '\r'

def skipBlanks (cs : List Char) : List Char := cs.dropWhile isBlank

/-- What is left after a word, if the text begins with it. -/
def afterWord? (word : String) (cs : List Char) : Option (List Char) :=
  if word.toList.isPrefixOf cs then some (cs.drop word.length) else none

/-! ### Strings -/

/-- A character of a string, or one of the four-digit escapes that spell one or half of one. -/
inductive Piece where
  | char (c : Char)
  | unit (n : Nat)
  deriving DecidableEq, Repr

def hexDigit? (c : Char) : Option Nat :=
  let n := c.toNat
  if 48 ≤ n ∧ n ≤ 57 then some (n - 48)
  else if 97 ≤ n ∧ n ≤ 102 then some (n - 87)
  else if 65 ≤ n ∧ n ≤ 70 then some (n - 55)
  else none

def hexUnit? (a b c d : Char) : Option Nat := do
  return (((← hexDigit? a) * 16 + (← hexDigit? b)) * 16 + (← hexDigit? c)) * 16 + (← hexDigit? d)

/-- The character of a one-letter escape. -/
def escaped? : Char → Option Char
  | '"' => some '"'
  | '\\' => some '\\'
  | '/' => some '/'
  | 'b' => some '\x08'
  | 'f' => some '\x0c'
  | 'n' => some '\n'
  | 'r' => some '\r'
  | 't' => some '\t'
  | _ => none

/-- The pieces of a string up to its closing quote, and what is left. Control characters have to be
    escaped. -/
def readPieces : List Char → Option (List Piece × List Char)
  | [] => none
  | '"' :: rest => some ([], rest)
  | '\\' :: 'u' :: a :: b :: c :: d :: rest => do
    let n ← hexUnit? a b c d
    let (pieces, rest) ← readPieces rest
    return (.unit n :: pieces, rest)
  | '\\' :: e :: rest => do
    let c ← escaped? e
    let (pieces, rest) ← readPieces rest
    return (.char c :: pieces, rest)
  | c :: rest => do
    if c.toNat < 0x20 then none
    let (pieces, rest) ← readPieces rest
    return (.char c :: pieces, rest)

/-- The characters that the pieces spell; two halves of a surrogate pair make one. -/
def assemble : List Piece → Option (List Char)
  | [] => some []
  | .char c :: rest => (assemble rest).map (c :: ·)
  | .unit high :: .unit low :: rest =>
    if 0xd800 ≤ high ∧ high < 0xdc00 then
      if 0xdc00 ≤ low ∧ low < 0xe000 then
        (assemble rest).map (Char.ofNat ((high - 0xd800) * 0x400 + (low - 0xdc00) + 0x10000) :: ·)
      else none
    else if 0xdc00 ≤ high ∧ high < 0xe000 then none
    else (assemble (.unit low :: rest)).map (Char.ofNat high :: ·)
  | .unit n :: rest =>
    if 0xd800 ≤ n ∧ n < 0xe000 then none else (assemble rest).map (Char.ofNat n :: ·)

/-- A string after its opening quote: its text if it has one, and what is left. -/
def readString (cs : List Char) : Option (Option String × List Char) :=
  (readPieces cs).map fun (pieces, rest) => ((assemble pieces).map String.ofList, rest)

/-! ### Numbers -/

/-- A run of at least one digit. -/
def readDigits (cs : List Char) : Option (List Char × List Char) :=
  match cs.takeWhile Char.isDigit with
  | [] => none
  | digits => some (digits, cs.dropWhile Char.isDigit)

/-- The power of ten after its letter. -/
def readExponent (cs : List Char) : Option (Int × List Char) := do
  let value (digits : List Char) : Nat := digits.foldl (fun n c => n * 10 + Numeral.digit c) 0
  match cs with
  | '-' :: rest =>
    let (digits, rest) ← readDigits rest
    return (-(value digits : Int), rest)
  | '+' :: rest | rest =>
    let (digits, rest) ← readDigits rest
    return (value digits, rest)

/-- A numeral after its sign. A zero in front stands alone. -/
def readNumeral (negative : Bool) (cs : List Char) : Option (Numeral × List Char) := do
  let (whole, rest) ← readDigits cs
  if whole.head? = some '0' ∧ whole.length ≠ 1 then none
  let (fraction, rest) ← match rest with
    | '.' :: rest => readDigits rest
    | rest => some ([], rest)
  match rest with
  | 'e' :: rest | 'E' :: rest =>
    let (e, rest) ← readExponent rest
    return (⟨negative, whole, fraction, some e⟩, rest)
  | rest => return (⟨negative, whole, fraction, none⟩, rest)

/-! ### Values -/

mutual

/-- A value, and what is left unless the value broke off. -/
def readValue : (fuel : Nat) → List Char → Json × Option (List Char)
  | 0, _ => (.malformed, none)
  | fuel + 1, cs =>
    match skipBlanks cs with
    | '[' :: rest =>
      let (items, left) := readItems fuel true rest
      (.list items left.isSome, left)
    | '{' :: rest =>
      let (members, left) := readMembers fuel true rest
      (.object members left.isSome, left)
    | '"' :: rest =>
      match readString rest with
      | some (s, rest) => (.string s, some rest)
      | none => (.malformed, none)
    | '-' :: rest =>
      match readNumeral true rest with
      | some (n, rest) => (.number n, some rest)
      | none => (.malformed, none)
    | c :: rest =>
      if c.isDigit then
        match readNumeral false (c :: rest) with
        | some (n, rest) => (.number n, some rest)
        | none => (.malformed, none)
      else
        match afterWord? "null" (c :: rest), afterWord? "true" (c :: rest), afterWord? "false" (c :: rest) with
        | some rest, _, _ => (.null, some rest)
        | _, some rest, _ => (.bool true, some rest)
        | _, _, some rest => (.bool false, some rest)
        | none, none, none => (.malformed, none)
    | [] => (.malformed, none)

/-- The items of a list up to its closing bracket, and what is left unless the list broke off. -/
def readItems : (fuel : Nat) → (first : Bool) → List Char → List Json × Option (List Char)
  | 0, _, _ => ([], none)
  | fuel + 1, first, cs =>
    match skipBlanks cs, first with
    | ']' :: rest, _ => ([], some rest)
    | [], _ => ([], none)
    | rest, true => readItemsFrom fuel rest
    | ',' :: rest, false => readItemsFrom fuel rest
    | _, false => ([], none)

/-- One item and those after it. -/
def readItemsFrom : (fuel : Nat) → List Char → List Json × Option (List Char)
  | 0, _ => ([], none)
  | fuel + 1, cs =>
    match readValue fuel cs with
    | (item, none) => ([item], none)
    | (item, some rest) =>
      let (items, left) := readItems fuel false rest
      (item :: items, left)

/-- The members of an object up to its closing brace, and what is left unless the object broke off. -/
def readMembers : (fuel : Nat) → (first : Bool) → List Char →
    List (Option String × Json) × Option (List Char)
  | 0, _, _ => ([], none)
  | fuel + 1, first, cs =>
    match skipBlanks cs, first with
    | '}' :: rest, _ => ([], some rest)
    | '"' :: rest, true => readMembersFrom fuel rest
    | ',' :: rest, false =>
      match skipBlanks rest with
      | '"' :: rest => readMembersFrom fuel rest
      | _ => ([], none)
    | _, _ => ([], none)

/-- One member, after the opening quote of its key, and those after it. -/
def readMembersFrom : (fuel : Nat) → List Char → List (Option String × Json) × Option (List Char)
  | 0, _ => ([], none)
  | fuel + 1, cs =>
    match readString cs with
    | none => ([], none)
    | some (key, rest) =>
      match skipBlanks rest with
      | ':' :: rest =>
        match readValue fuel rest with
        | (value, none) => ([(key, value)], none)
        | (value, some rest) =>
          let (members, left) := readMembers fuel false rest
          ((key, value) :: members, left)
      | _ => ([(key, .malformed)], none)

end

/-- A document: its value, and whether nothing but blanks stands behind it. -/
structure Document where
  value : Json
  ended : Bool

/-- The document of a text. No value nests deeper than its text is long, and each level takes at most
    three steps. -/
def read (text : String) : Document :=
  let cs := text.toList
  match readValue (3 * cs.length + 3) cs with
  | (value, none) => ⟨value, true⟩
  | (value, some rest) => ⟨value, (skipBlanks rest).isEmpty⟩

end KernelAudit.Json
