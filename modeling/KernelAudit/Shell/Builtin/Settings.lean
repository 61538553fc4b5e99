import KernelAudit.Shell.Builtin.Variables

/-! The options of a shell, by their letters and by their names. -/

namespace KernelAudit.Shell

/-- An option of the shell. Some of them have no letter. -/
structure Setting where
  name : String
  letter : Char

/-- The options of a shell; those that have no letter go by a character that is none. -/
def settings : List Setting :=
  [⟨"errexit", 'e'⟩, ⟨"noglob", 'f'⟩, ⟨"ignoreeof", 'I'⟩, ⟨"interactive", 'i'⟩, ⟨"monitor", 'm'⟩,
    ⟨"noexec", 'n'⟩, ⟨"stdin", 's'⟩, ⟨"xtrace", 'x'⟩, ⟨"verbose", 'v'⟩, ⟨"vi", 'V'⟩, ⟨"emacs", 'E'⟩,
    ⟨"noclobber", 'C'⟩, ⟨"allexport", 'a'⟩, ⟨"notify", 'b'⟩, ⟨"nounset", 'u'⟩, ⟨"privileged", 'p'⟩,
    ⟨"nolog", '\x01'⟩, ⟨"debug", '\x02'⟩]

namespace Session

def showSettings (asCommands : Bool) : Session Unit := do
  let s ← get
  let line (o : Setting) : String :=
    let on := s.hasOption o.letter
    if asCommands then (if on then "set -o " else "set +o ") ++ o.name ++ "\n"
    else o.name ++ String.ofList (List.replicate (16 - o.name.length) ' ') ++ (if on then "on" else "off") ++ "\n"
  unless asCommands do print "Current option settings\n"
  print (String.join (settings.map line))

/-- Turns an option on or off. -/
def setLetter (on : Bool) (letter : Char) : Session Unit :=
  if settings.any (·.letter = letter) then modify (·.setOption letter on)
  else fail s!"Illegal option -{letter}"

def setNamed (on : Bool) (name : String) : Session Unit :=
  match settings.find? (·.name = name) with
  | some o => modify (·.setOption o.letter on)
  | none => fail s!"Illegal option -o {name}"

/-- Turns the options of a word on or off. At the start, one of them announces a script. The words after
    it are given back, without the names that belong to the options. -/
def setLetters (atStart on : Bool) : List Char → (hasScript : Bool) → List String → Session (Bool × List String)
  | [], hasScript, words => pure (hasScript, words)
  | c :: cs, hasScript, words => do
    if c = 'c' && atStart then setLetters atStart on cs true words
    else if c = 'o' then
      match words with
      | [] => showSettings (!on)
      | name :: _ => setNamed on name
      setLetters atStart on cs hasScript words.tail
    else
      setLetter on c
      setLetters atStart on cs hasScript words

/-- What the words for the options of a shell come to. -/
structure Settled where
  hasScript : Bool
  words : List String
  /-- Whether the words have been closed explicitly. -/
  closed : Bool

def readSettings (atStart : Bool) : (fuel : Nat) → (hasScript : Bool) → List String → Session Settled
  | 0, hasScript, words => pure ⟨hasScript, words, false⟩
  | _, hasScript, [] => pure ⟨hasScript, [], false⟩
  | fuel + 1, hasScript, word :: rest => do
    match word.toList with
    | ['-'] =>
      unless atStart do modify fun s => (s.setOption 'x' false).setOption 'v' false
      return ⟨hasScript, rest, false⟩
    | ['-', '-'] => return ⟨hasScript, rest, true⟩
    | '-' :: cs =>
      let (hasScript, rest) ← setLetters atStart true cs hasScript rest
      readSettings atStart fuel hasScript rest
    | '+' :: cs =>
      let (hasScript, rest) ← setLetters atStart false cs hasScript rest
      readSettings atStart fuel hasScript rest
    | _ => return ⟨hasScript, word :: rest, false⟩

/-- Gives up what needs a terminal. -/
def settleTerminal : Session Unit := do
  if (← get).hasOption 'm' then
    warn "can't access tty; job control turned off"
    modify (·.setOption 'm' false)

def setCommand (words : List String) : Session Nat := do
  if words.isEmpty then listed "" (·.value.isSome)
  else
    let settled ← readSettings false words.length false words
    settleTerminal
    if settled.closed || !settled.words.isEmpty then setArguments settled.words
  return 0

end Session

end KernelAudit.Shell
