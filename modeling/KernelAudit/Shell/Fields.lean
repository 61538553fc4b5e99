import KernelAudit.Shell.Pattern

/-! Fields: the words that expansions come apart into. What an expansion leaves is split at the characters
    of a list; blanks among them count once however many there are, and not at all at the ends. -/

namespace KernelAudit.Shell

/-- A piece of what a word has been expanded to. -/
inductive Cell where
  /-- A character; `splits` tells whether it can be a separator. -/
  | char (c : Char) (quoted splits : Bool)
  /-- Shows that there is a field. -/
  | mark
  /-- A boundary between arguments. -/
  | boundary
  /-- An expansion begins here; it is split only at boundaries if `whole` is set. -/
  | expansion (whole : Bool)
  deriving DecidableEq, Repr

namespace Cell

def ofText (text : String) (quoted splits : Bool) : List Cell := text.toList.map fun c => .char c quoted splits

/-- The text of some pieces. -/
def text (cells : List Cell) : String :=
  String.ofList (cells.filterMap fun
    | .char c .. => some c
    | _ => none)

/-- Some pieces as a pattern. -/
def pattern (cells : List Cell) : List PatternChar :=
  cells.filterMap fun
    | .char c quoted _ => some ⟨c, quoted⟩
    | _ => none

end Cell

/-- A field; its characters are kept as those of a pattern. -/
abbrev Field := List PatternChar

def Field.text (f : Field) : String := String.ofList (f.map (·.char))

/-- Fields as they are found: those that are complete and the one under way, all in reverse. -/
structure Splitting where
  done : List Field
  current : Field
  /-- Whether there is a field under way. -/
  present : Bool
  /-- Whether blanks have been passed that end the last field. -/
  afterBlank : Bool
  /-- Whether the expansion under way is split at boundaries only, and the one before it was. -/
  whole : Bool
  afterWhole : Bool
  /-- Whether there has been an expansion. -/
  anyExpansion : Bool
  deriving DecidableEq, Repr

namespace Splitting

def start : Splitting := ⟨[], [], false, false, false, false, false⟩

def isBlank (c : Char) : Bool := c = ' ' || c = '\t' || c = '\n'

def add (s : Splitting) (c : Char) (quoted : Bool) : Splitting :=
  { s with current := ⟨c, quoted⟩ :: s.current, present := true }

def finishField (s : Splitting) : Splitting :=
  { s with done := s.current.reverse :: s.done, current := [], present := false }

/-- A separator; `blank` tells whether it is one that counts once only. -/
def separate (s : Splitting) (blank : Bool) : Splitting :=
  if s.afterBlank then { s with current := [], present := false, afterBlank := blank }
  else
    let blank := blank && !(s.whole || s.afterWhole)
    if !s.present && blank then s else { s.finishField with afterBlank := blank }

def step (separators : String) (s : Splitting) : Cell → Splitting
  | .mark => { s with present := true }
  | .expansion whole =>
    { s with whole, afterWhole := s.whole, afterBlank := false, anyExpansion := true }
  | .boundary => s.separate true
  | .char c quoted splits =>
    if splits && !s.whole && separators.toList.contains c then s.separate (isBlank c)
    else { s with afterBlank := s.afterBlank && !splits }.add c quoted

end Splitting

/-- The fields that some pieces come apart into. -/
def splitFields (separators : String) (cells : List Cell) : List Field :=
  let s := cells.foldl (Splitting.step separators) Splitting.start
  let s := if s.present || (s.anyExpansion && s.whole) then s.finishField else s
  s.done.reverse

/-! ### A limited number of fields -/

/-- Fields as they are found where their number is limited. The last one takes all that is left, except
    for separators at its end. -/
structure Sharing where
  /-- The fields that are complete, in reverse. -/
  done : List String
  current : List Char
  /-- How many fields there may still be. -/
  left : Nat
  afterBlank : Bool
  /-- How much of the last field is sure to be kept. -/
  kept : Option Nat
  deriving DecidableEq, Repr

namespace Sharing

def add (s : Sharing) (c : Char) : Sharing := { s with current := c :: s.current }

/-- A character of the last field. -/
def addLast (s : Sharing) (c : Char) (isSeparator isBlank : Bool) : Sharing :=
  if isBlank then { s with kept := some (s.kept.getD s.current.length) }.add c
  else
    { s with kept := if isSeparator && s.afterBlank then s.kept else none, afterBlank := false }.add c

/-- A character that can be a separator. -/
def addFree (s : Sharing) (c : Char) (isSeparator isBlank : Bool) : Sharing :=
  if s.left = 0 then s.addLast c isSeparator isBlank
  else if s.afterBlank && isSeparator then
    { s with current := [], afterBlank := isBlank }
  else
    let s := if s.afterBlank then { s with current := [], afterBlank := false } else s
    if !isSeparator then s.add c
    else if s.current.isEmpty && isBlank then s
    else if s.left = 1 then
      { s with left := 0, afterBlank := isBlank, kept := some s.current.length }.add c
    else
      { s with
        done := String.ofList s.current.reverse :: s.done, current := [], left := s.left - 1
        afterBlank := isBlank }

def step (separators : List Char) (s : Sharing) : Cell → Sharing
  | .expansion _ => { s with afterBlank := false }
  | .char c _ splits =>
    if splits then
      let isSeparator := separators.contains c
      s.addFree c isSeparator (isSeparator && Splitting.isBlank c)
    else s.add c
  | _ => s

end Sharing

/-- The fields of some pieces, not more than a given number. -/
def shareFields (separators : String) (limit : Nat) (cells : List Cell) : List String :=
  let s := cells.foldl (Sharing.step separators.toList) ⟨[], [], limit, false, none⟩
  let last := s.current.reverse.take (s.kept.getD s.current.length)
  (if last.isEmpty then s.done else String.ofList last :: s.done).reverse

end KernelAudit.Shell
