import KernelAudit.Shell.Basic

/-! Options of the commands of a shell: single letters behind a dash, some of them with an argument, in
    front of all other words. -/

namespace KernelAudit.Shell

/-- An option that a command knows. -/
structure KnownOption where
  letter : Char
  hasArgument : Bool
  deriving DecidableEq, Repr

def flag (letter : Char) : KnownOption := ⟨letter, false⟩

/-- The options that a command has been given, and the words behind them. -/
structure Given where
  options : List (Char × String)
  words : List String
  deriving Repr

namespace Given

def has (g : Given) (letter : Char) : Bool := g.options.any (·.1 = letter)

def add (letter : Char) (argument : String) (g : Given) : Given :=
  { g with options := (letter, argument) :: g.options }

/-- Reads the letters of a word, and the words after it. -/
def letters (known : List KnownOption) : (fuel : Nat) → List Char → List String → Except String Given
  | 0, _, words => .ok ⟨[], words⟩
  | fuel + 1, [], words =>
    match words with
    | [] => .ok ⟨[], []⟩
    | word :: rest =>
      match word.toList with
      | ['-', '-'] => .ok ⟨[], rest⟩
      | '-' :: c :: cs => letters known fuel (c :: cs) rest
      | _ => .ok ⟨[], words⟩
  | fuel + 1, c :: cs, words =>
    match known.find? (·.letter = c) with
    | none => .error s!"Illegal option -{c}"
    | some option =>
      if option.hasArgument then
        match cs, words with
        | [], [] => .error s!"No arg for -{c} option"
        | [], word :: rest => (letters known fuel [] rest).map (add c word)
        | cs, words => (letters known fuel [] words).map (add c (String.ofList cs))
      else (letters known fuel cs words).map (add c "")

def read (known : List KnownOption) (words : List String) : Except String Given :=
  letters known ((words.map (·.length + 1)).foldl (· + ·) 0 + 1) [] words

end Given

namespace Session

/-- The options among some words. -/
def options (known : List KnownOption) (words : List String) : Session Given :=
  match Given.read known words with
  | .ok given => pure given
  | .error message => fail message

/-- The words of a command that has no options. -/
def noOptions (words : List String) : Session (List String) := do return (← options [] words).words

end Session

/-! ### Quoting -/

/-- A text in quotes, from which the shell reads the text again. Runs of single quotes are put between
    double ones. -/
def quotedPieces : (fuel : Nat) → List Char → List Char
  | 0, _ => []
  | fuel + 1, cs =>
    let plain := cs.takeWhile (· ≠ '\'')
    let rest := cs.drop plain.length
    let marks := rest.takeWhile (· = '\'')
    ['\''] ++ plain ++ ['\''] ++
      if rest.isEmpty then []
      else
        let more := rest.drop marks.length
        ['"'] ++ marks ++ ['"'] ++ if more.isEmpty then [] else quotedPieces fuel more

def singleQuoted (text : String) : String := String.ofList (quotedPieces (text.length + 1) text.toList)

end KernelAudit.Shell
