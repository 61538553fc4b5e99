/-! Shell scripts as trees: words with what is expanded in them, redirections, and the commands that they
    make up. -/

namespace KernelAudit.Shell

/-- What a parameter is used for, apart from its bare value. The flag `ofEmpty` says that an empty value
    counts as none. -/
inductive Usage where
  | value
  | length
  | orElse (ofEmpty : Bool)
  | orAssign (ofEmpty : Bool)
  | orFail (ofEmpty : Bool)
  | ifPresent (ofEmpty : Bool)
  | withoutStart (longest : Bool)
  | withoutEnd (longest : Bool)
  /-- Something that is no usage; it fails when it is expanded. -/
  | invalid
  deriving DecidableEq, Repr

/-- How a file is opened by a redirection. -/
inductive FileMode where
  | input
  | output
  | append
  /-- Output that replaces a file even where files are guarded. -/
  | replace
  | both
  deriving DecidableEq, Repr

mutual

/-- A piece of a word. What is quoted is neither split nor taken as a pattern. -/
inductive Part where
  | text (content : String) (quoted : Bool)
  /-- A quotation begins here, so there is a field even if nothing is in it. -/
  | mark
  /-- All arguments in quotes, a field each. -/
  | arguments
  | parameter (name : String) (usage : Usage) (word : List Part) (quoted : Bool)
  | substitution (body : Command) (quoted : Bool)
  | arithmetic (expression : List Part) (quoted : Bool)

inductive Redirection where
  | file (descriptor : Nat) (mode : FileMode) (target : List Part)
  | copy (descriptor source : Nat)
  | close (descriptor : Nat)
  /-- A copy of a descriptor that is only known when the word is expanded. -/
  | copyOf (descriptor : Nat) (source : List Part)
  | document (descriptor : Nat) (body : List Part)
  /-- A document that is still to be read, by its number among those of the command. -/
  | pending (descriptor index : Nat)

inductive Command where
  | nothing
  | simple (line : Nat) (assignments words : List (List Part)) (redirections : List Redirection)
  | pipeline (commands : List Command) (inBackground : Bool)
  | redirected (line : Nat) (body : Command) (redirections : List Redirection)
  | background (line : Nat) (body : Command) (redirections : List Redirection)
  | subshell (line : Nat) (body : Command) (redirections : List Redirection)
  | sequence (first second : Command)
  | both (first second : Command)
  | either (first second : Command)
  | not (body : Command)
  | branch (condition yes no : Command)
  /-- Repeats the body while the condition succeeds, or while it fails if `inverted`. -/
  | loop (inverted : Bool) (condition body : Command)
  | each (line : Nat) (name : String) (words : List (List Part)) (body : Command)
  | select (line : Nat) (word : List Part) (clauses : List (List (List Part) × Command))
  | define (line : Nat) (name : String) (body : Command)

end

abbrev Word := List Part

/-- A command that is no command has no effect and no status of its own. -/
def Command.isNothing : Command → Bool
  | .nothing => true
  | _ => false

/-! ### Documents

A document is named where it is redirected from and follows on a later line, so it is put into its
command at the end. -/

/-- Puts the documents in the places that wait for them. -/
def Redirection.fill (documents : List Word) : Redirection → Redirection
  | .pending descriptor index => .document descriptor (documents.getD index [])
  | r => r

mutual

def Command.fill (documents : List Word) : Command → Command
  | .nothing => .nothing
  | .simple line assignments words rs => .simple line assignments words (rs.map (·.fill documents))
  | .pipeline commands inBackground => .pipeline (fillAll documents commands) inBackground
  | .redirected line body rs => .redirected line (body.fill documents) (rs.map (·.fill documents))
  | .background line body rs => .background line (body.fill documents) (rs.map (·.fill documents))
  | .subshell line body rs => .subshell line (body.fill documents) (rs.map (·.fill documents))
  | .sequence a b => .sequence (a.fill documents) (b.fill documents)
  | .both a b => .both (a.fill documents) (b.fill documents)
  | .either a b => .either (a.fill documents) (b.fill documents)
  | .not body => .not (body.fill documents)
  | .branch condition yes no =>
    .branch (condition.fill documents) (yes.fill documents) (no.fill documents)
  | .loop inverted condition body => .loop inverted (condition.fill documents) (body.fill documents)
  | .each line name words body => .each line name words (body.fill documents)
  | .select line word clauses => .select line word (fillClauses documents clauses)
  | .define line name body => .define line name (body.fill documents)

def fillAll (documents : List Word) : List Command → List Command
  | [] => []
  | c :: rest => c.fill documents :: fillAll documents rest

def fillClauses (documents : List Word) : List (List Word × Command) → List (List Word × Command)
  | [] => []
  | (patterns, body) :: rest => (patterns, body.fill documents) :: fillClauses documents rest

end

end KernelAudit.Shell
