import KernelAudit.Shell.Command
import KernelAudit.Shell.Token

/-! Reading scripts. A script is read one complete command at a time, a command being complete at the end
    of a line, because what has been read is run before the rest is looked at. Words are read character
    by character into their pieces; what stands in a substitution is read as a script of its own. -/

namespace KernelAudit.Shell

/-! ### Names -/

def isNameStart (c : Char) : Bool := c.isAlpha || c = '_'

def isNameChar (c : Char) : Bool := c.isAlphanum || c = '_'

/-- Whether a text can be the name of a variable. -/
def isName (s : String) : Bool :=
  match s.toList with
  | [] => false
  | c :: rest => isNameStart c && rest.all isNameChar

/-- The parameters that are named by a single sign. -/
def isSpecial (c : Char) : Bool := c.isDigit || "!#$*-?@".toList.contains c

/-- The name and the rest of a text that begins with a name and an equality sign. -/
def splitAssignment? (s : String) : Option (String × String) :=
  let name := s.toList.takeWhile isNameChar
  match s.toList.drop name.length with
  | '=' :: value => if isName (String.ofList name) then some (String.ofList name, String.ofList value) else none
  | _ => none

/-- The commands that no function can take the place of. -/
def specialCommands : List String :=
  [".", ":", "break", "continue", "eval", "exec", "exit", "export", "local", "readonly", "return", "set",
    "shift", "times", "trap", "unset"]

/-! ### The state of a reader -/

/-- A document that is still to come. -/
structure Awaited where
  mark : String
  /-- Whether nothing is expanded in it. -/
  verbatim : Bool
  /-- Whether tabs are dropped at the front of its lines. -/
  stripsTabs : Bool
  deriving Repr

structure Reader where
  rest : List Char
  line : Nat
  /-- The last token, and whether it is to be read once more. -/
  token : Token
  held : Bool
  /-- The last word, and whether a part of it was quoted. -/
  word : Word
  quoted : Bool
  /-- The last redirection, as far as its operator tells. -/
  redirection : Word → Redirection
  /-- The kind of document that the last redirection asks for. -/
  document : Option Bool
  skipsNewlines : Bool
  findsKeywords : Bool
  findsAliases : Bool
  /-- Documents whose marks have been read. -/
  awaited : List Awaited
  /-- Documents that have been read. -/
  documents : List Word
  aliases : List (String × String)
  /-- Aliases that are being read, with what will be left of the script after each. -/
  active : List (String × Nat)

namespace Reader

def ofText (text : List Char) (line : Nat) (aliases : List (String × String)) : Reader where
  rest := text
  line := line
  token := .newline
  held := false
  word := []
  quoted := false
  redirection := fun _ => .close 0
  document := none
  skipsNewlines := false
  findsKeywords := false
  findsAliases := false
  awaited := []
  documents := []
  aliases := aliases
  active := []

end Reader

abbrev Reading := StateT Reader (Except Problem)

namespace Reading

def fail (flaw : Flaw) : Reading α := do throw ⟨(← get).line, flaw⟩

/-- The next character. -/
def char : Reading (Option Char) := do
  let r ← get
  match r.rest with
  | [] => return none
  | c :: rest =>
    set { r with rest }
    return some c

def newLine : Reading Unit := modify fun r => { r with line := r.line + 1 }

def putBack (c : Option Char) : Reading Unit :=
  match c with
  | none => pure ()
  | some c => modify fun r => { r with rest := c :: r.rest }

/-- A text without the broken line ends at its front, and how many there were. -/
def joinLines : List Char → Nat × List Char
  | '\\' :: '\n' :: rest => let (n, rest) := joinLines rest; (n + 1, rest)
  | cs => (0, cs)

/-- The next character; lines that are broken with a backslash are joined. -/
def joined : Reading (Option Char) := do
  modify fun r => let (n, rest) := joinLines r.rest; { r with rest, line := r.line + n }
  char

/-- Characters as long as they are of a kind. -/
def joinedWhile (p : Char → Bool) : (fuel : Nat) → List Char → Reading (List Char)
  | 0, seen => pure seen.reverse
  | fuel + 1, seen => do
    match ← joined with
    | some c => if p c then joinedWhile p fuel (c :: seen) else do putBack (some c); pure seen.reverse
    | none => pure seen.reverse

/-! ### Words -/

/-- Adds a character to the pieces of a word, which are kept in reverse. -/
def push (parts : Word) (c : Char) (quoted : Bool) : Word :=
  match parts with
  | .text s q :: rest => if q = quoted then .text (s.push c) q :: rest else .text (String.singleton c) quoted :: parts
  | _ => .text (String.singleton c) quoted :: parts

/-- How the characters of a word are taken. -/
inductive Manner where
  | plain
  | double
  | arithmetic
  deriving DecidableEq, Repr

/-- Where in a word a reader is. -/
structure Place where
  manner : Manner
  /-- Whether this is the inside of braces. -/
  nested : Bool
  /-- Whether quotes have been opened again inside braces that stand in quotes. -/
  inner : Bool
  /-- How many parentheses are open in an expression. -/
  depth : Nat
  /-- The document that is read, if it is one. -/
  document : Option Awaited
  /-- Whether dollar signs and backquotes are characters like others. -/
  verbatim : Bool

namespace Place

def plain : Place := ⟨.plain, false, false, 0, none, false⟩

def isQuoted (p : Place) : Bool := p.manner ≠ .plain

/-- The inside of braces at a place; patterns are taken as if nothing were quoted. -/
def inBraces (p : Place) (pattern : Bool) : Place :=
  let manner := if pattern then .plain else if p.manner = .plain then .plain else .double
  { p with manner, nested := true, inner := false, depth := 0 }

def inQuotes (p : Place) : Place := { p with manner := .double, nested := false, inner := false, document := none }

def inExpression (p : Place) : Place :=
  { p with manner := .arithmetic, nested := false, inner := false, depth := 0 }

/-- Whether a backslash takes its meaning from a character in quotes. -/
def escapes (p : Place) (c : Char) : Bool :=
  c = '\\' || c = '\x60' || c = '$' || (c = '"' && !(p.document.isSome && !p.nested)) ||
    (c = '\x7d' && p.nested && !p.inner)

end Place

/-- The rest of a text after a mark on a line of its own. -/
def afterMark (a : Awaited) (text : List Char) : Option (List Char) :=
  let text := if a.stripsTabs then text.dropWhile (· = '\t') else text
  let mark := a.mark.toList
  if text.take mark.length = mark then
    match text.drop mark.length with
    | [] => some []
    | '\n' :: rest => some rest
    | _ => none
  else none

/-- What a word that ends too early lacks. -/
def unfinished (p : Place) : Flaw :=
  if p.manner = .arithmetic then .unclosedArithmetic
  else if p.manner = .double && p.document.isNone then .unterminatedQuote
  else .unclosedBrace

/-- At the front of a line of a document: drops its tabs, and tells whether the document ends here. -/
def atLineStart (p : Place) : Reading Bool := do
  match p.document with
  | none => return false
  | some a =>
    let r ← get
    match afterMark a r.rest with
    | some rest =>
      set { r with rest, line := r.line + 1 }
      return true
    | none =>
      if a.stripsTabs then set { r with rest := r.rest.dropWhile (· = '\t') }
      return false

/-- The characters up to the next single quote. -/
def singleQuoted : List Char → List Char → Option (List Char × List Char)
  | _, [] => none
  | seen, '\'' :: rest => some (seen.reverse, rest)
  | seen, c :: rest => singleQuoted (c :: seen) rest

/-- The text of a substitution up to its closing backquote, without the backslashes that only protect
    it. -/
def backquoted (inQuotes : Bool) : (fuel : Nat) → List Char → Reading (List Char)
  | 0, _ => fail .unterminatedSubstitution
  | fuel + 1, seen => do
    match ← joined with
    | none => fail .unterminatedSubstitution
    | some '\x60' => return seen.reverse
    | some '\\' =>
      match ← char with
      | none => fail .unterminatedSubstitution
      | some c =>
        if c = '\\' || c = '\x60' || c = '$' || (inQuotes && c = '"') then backquoted inQuotes fuel (c :: seen)
        else backquoted inQuotes fuel (c :: '\\' :: seen)
    | some c =>
      if c = '\n' then newLine
      backquoted inQuotes fuel (c :: seen)

/-- What follows the name of a parameter in braces. The flag tells whether a word follows. -/
def usage : Reading (Usage × Bool) := do
  let (ofEmpty, c) ← do
    match ← joined with
    | some ':' => pure (true, ← joined)
    | c => pure (false, c)
  match c with
  | some '\x7d' => return if ofEmpty then (.value, true) else (.value, false)
  | some '-' => return (.orElse ofEmpty, true)
  | some '+' => return (.ifPresent ofEmpty, true)
  | some '?' => return (.orFail ofEmpty, true)
  | some '=' => return (.orAssign ofEmpty, true)
  | some c =>
    if !ofEmpty && (c = '%' || c = '#') then
      let next ← joined
      let longest := next = some c
      if !longest then putBack next
      return (if c = '%' then .withoutEnd longest else .withoutStart longest, true)
    else return (.invalid, true)
  | none => return (.invalid, true)

/-- The name of a parameter and its usage in braces. -/
def braced (fuel : Nat) : Reading (String × Usage × Bool) := do
  let named (c : Char) : Reading String := do
    let more ← joinedWhile (if isNameStart c then isNameChar else Char.isDigit) fuel []
    return String.ofList (c :: more)
  match ← joined with
  | none => return ("", .invalid, true)
  | some c =>
    if isNameStart c || c.isDigit then
      let name ← named c
      let (use, more) ← usage
      return (name, use, more)
    else if c = '\x7d' then
      putBack (some c)
      return ("", .invalid, true)
    else if c = '#' then
      match ← joined with
      | none => return ("#", .invalid, true)
      | some d =>
        if isNameChar d then
          let name ← named d
          match ← joined with
          | some '\x7d' => return (name, .length, false)
          | other =>
            putBack other
            return (name, .invalid, true)
        else
          let next ← joined
          if d ≠ '\x7d' && next = some '\x7d' then
            if isSpecial d then return (String.singleton d, .length, false)
            else
              putBack next
              return (String.singleton d, .invalid, true)
          else
            putBack next
            putBack (some d)
            let (use, more) ← usage
            return ("#", use, more)
    else if isSpecial c then
      let (use, more) ← usage
      return (String.singleton c, use, more)
    else
      return (String.singleton c, .invalid, true)

/-! ### Tokens -/

def give (t : Token) : Reading Token := do
  modify fun r => { r with token := t, held := false }
  return t

def hold : Reading Unit := modify fun r => { r with held := true }

def unexpected (expected : Option Token) : Reading α := do fail (.unexpected (← get).token expected)

/-- The text of a word in which nothing is quoted or expanded. -/
def plainText? : Word → Option String
  | [] => some ""
  | [.text s false] => some s
  | _ => none

/-- The text of a word that marks the end of a document. -/
def markText (w : Word) : String :=
  String.join (w.map fun
    | .text s _ => s
    | _ => "")

/-- The digit in front of a redirection. -/
def redirectedDigit? (w : Word) (quoted : Bool) : Option (Option Nat) :=
  if quoted then none
  else match w with
    | [] => some none
    | [.text s false] =>
      match s.toList with
      | [c] => if c.isDigit then some (some (c.toNat - 48)) else none
      | _ => none
    | _ => none

/-- Where a copied descriptor comes from. -/
def copyOf (descriptor : Nat) (source : Word) : Redirection :=
  match plainText? source with
  | some "-" => .close descriptor
  | some s =>
    match s.toList with
    | [c] => if c.isDigit then .copy descriptor (c.toNat - 48) else .copyOf descriptor source
    | _ => .copyOf descriptor source
  | none => .copyOf descriptor source

/-- The operator of a redirection, of which the first character has been read. -/
def redirectionOf (c : Char) (digit : Option Nat) : Reading Token := do
  let fd := digit.getD (if c = '>' then 1 else 0)
  let next ← joined
  let file (mode : FileMode) : Reading ((Word → Redirection) × Option Bool) :=
    pure (.file fd mode, none)
  let (redirection, document) ←
    if c = '>' then
      match next with
      | some '>' => file .append
      | some '|' => file .replace
      | some '&' => pure (copyOf fd, none)
      | other => do putBack other; file .output
    else
      match next with
      | some '<' =>
        let dash ← joined
        if dash ≠ some '-' then putBack dash
        pure (fun _ => .pending fd 0, some (dash = some '-'))
      | some '&' => pure (copyOf fd, none)
      | some '>' => file .both
      | other => do putBack other; file .input
  modify fun r => { r with redirection, document }
  give .redirection

/-- Whether a character ends a word. -/
def endsWord (c : Char) : Bool := " \t\n<>;&|()".toList.contains c

/-- A token that is no word, if its first character begins one. -/
def operator? (c : Char) : Reading (Option Token) := do
  let double (second : Char) (two one : String) : Reading (Option Token) := do
    let next ← joined
    if next = some second then return some (.operator two)
    putBack next
    return some (.operator one)
  match c with
  | '&' => double '&' "&&" "&"
  | '|' => double '|' "||" "|"
  | ';' => double ';' ";;" ";"
  | '(' => return some (.operator "(")
  | ')' => return some (.operator ")")
  | _ => return none

/-- The first character of a token, after blanks and comments. -/
def firstChar : (fuel : Nat) → Reading (Option Char)
  | 0 => pure none
  | fuel + 1 => do
    match ← joined with
    | some ' ' | some '\t' => firstChar fuel
    | some '#' =>
      modify fun r => { r with rest := r.rest.dropWhile (· ≠ '\n') }
      firstChar fuel
    | c => return c

/-- The text of an alias for a word, unless it is being read already. -/
def alias? (r : Reader) (name : String) : Option String :=
  if r.aliases.isEmpty then none
  else
    let length := r.rest.length
    if r.active.any fun (n, left) => n = name && left < length then none
    else r.aliases.lookup name

/-- A name and the texts of an assignment in front of a word. -/
def isAssignment : Word → Bool
  | .text s false :: _ => (splitAssignment? s).isSome
  | _ => false

/-- Whether a name can be given to a function. -/
def canBeFunction (name : String) : Bool := isName name && !specialCommands.contains name

/-- A command with the redirections that follow it. -/
def withRedirections (line : Nat) (body : Command) (rs : List Redirection) : Command :=
  match body with
  | .subshell line body _ => .subshell line body rs
  | body => if rs.isEmpty then body else .redirected line body rs

/-- A command that is not waited for. -/
def inBackground : Command → Command
  | .pipeline commands _ => .pipeline commands true
  | .redirected line body rs => .background line body rs
  | body => .background 0 body []

/-- Two commands one after the other, of which the first may be none. -/
def append (first second : Command) : Command := if first.isNothing then second else .sequence first second

def expectNext (skipsNewlines findsKeywords findsAliases : Bool) : Reading Unit :=
  modify fun r => { r with skipsNewlines, findsKeywords, findsAliases }

/-- All kinds of tokens can come next, after any number of line ends. -/
def expectCommand : Reading Unit := expectNext true true true

mutual

/-- The pieces of a word from a place on; those in front of it are given in reverse. -/
def parts : (fuel : Nat) → Place → Word → Reading Word
  | 0, p, _ => fail (unfinished p)
  | fuel + 1, p, acc => do
    match ← joined with
    | none =>
      if (p.manner = .plain && !p.nested) || (p.document.isSome && p.manner = .double && !p.nested) then
        return acc.reverse
      else fail (unfinished p)
    | some '\n' =>
      if p.manner = .plain && !p.nested then
        putBack (some '\n')
        return acc.reverse
      else
        newLine
        let acc := push acc '\n' p.isQuoted
        if ← atLineStart p then
          if p.nested then fail .unclosedBrace else return acc.reverse
        else parts fuel p acc
    | some '\\' =>
      match ← char with
      | none => parts fuel p (push acc '\\' true)
      | some '\n' =>
        newLine
        parts fuel p acc
      | some c =>
        modify fun r => { r with quoted := true }
        if p.isQuoted && !p.escapes c then parts fuel p (push (push acc '\\' true) c true)
        else parts fuel p (push acc c true)
    | some '\'' =>
      if p.manner = .plain then
        let r ← get
        match singleQuoted [] r.rest with
        | none =>
          set { r with line := r.line + r.rest.count '\n' }
          fail .unterminatedQuote
        | some (content, rest) =>
          set { r with rest, line := r.line + content.count '\n', quoted := true }
          parts fuel p (content.foldl (push · · true) (.mark :: acc))
      else parts fuel p (push acc '\'' p.isQuoted)
    | some '"' =>
      match p.manner with
      | .plain =>
        let r ← get
        match r.rest with
        | '$' :: '@' :: '"' :: rest | '$' :: '\x7b' :: '@' :: '\x7d' :: '"' :: rest =>
          set { r with rest, quoted := true }
          parts fuel p (.arguments :: acc)
        | _ =>
          let content ← parts fuel { p.inQuotes with verbatim := p.verbatim } []
          modify fun r => { r with quoted := true }
          parts fuel p (content.reverse ++ .mark :: acc)
      | .double =>
        if p.nested then
          modify fun r => { r with quoted := true }
          parts fuel { p with inner := !p.inner } acc
        else if p.document.isSome then parts fuel p (push acc '"' true)
        else return acc.reverse
      | .arithmetic => parts fuel p (push acc '"' true)
    | some '\x60' =>
      if p.verbatim then parts fuel p (push acc '\x60' p.isQuoted)
      else
        let text ← backquoted (p.manner ≠ .plain) (2 * (← get).rest.length + 2) []
        let aliases := (← get).aliases
        match (list fuel 2).run (Reader.ofText text 1 aliases) with
        | .error e => throw e
        | .ok (body, inside) =>
          let body := body.fill inside.documents
          parts fuel p (.substitution body p.isQuoted :: acc)
    | some '$' =>
      let part ← dollar fuel p
      match part with
      | none => parts fuel p (push acc '$' p.isQuoted)
      | some part => parts fuel p (part :: acc)
    | some '\x7d' =>
      if p.nested && !p.inner then return acc.reverse
      else parts fuel p (push acc '\x7d' p.isQuoted)
    | some c =>
      match p.manner with
      | .plain =>
        if !p.nested && endsWord c then
          putBack (some c)
          return acc.reverse
        else parts fuel p (push acc c false)
      | .double => parts fuel p (push acc c true)
      | .arithmetic =>
        if c = '(' then parts fuel { p with depth := p.depth + 1 } (push acc c true)
        else if c = ')' then
          if 0 < p.depth then parts fuel { p with depth := p.depth - 1 } (push acc c true)
          else
            match ← joined with
            | some ')' => return acc.reverse
            | other =>
              putBack other
              parts fuel p (push acc c true)
        else parts fuel p (push acc c true)

/-- What a dollar sign stands for, unless it stands for itself. -/
def dollar : (fuel : Nat) → Place → Reading (Option Part)
  | 0, _ => pure none
  | fuel + 1, p => do
    if p.verbatim then return none
    match ← joined with
    | none => return none
    | some '(' =>
      match ← joined with
      | some '(' =>
        let expression ← parts fuel p.inExpression []
        return some (.arithmetic expression p.isQuoted)
      | other =>
        putBack other
        let outer ← get
        set { outer with awaited := [], documents := [] }
        let body ← list fuel 2
        let closing ← token fuel
        if closing ≠ .operator ")" then unexpected (some (.operator ")"))
        readDocuments fuel
        let r ← get
        set { outer with rest := r.rest, line := r.line, active := r.active }
        return some (.substitution (body.fill r.documents) p.isQuoted)
    | some '\x7b' =>
      let (name, use, more) ← braced fuel
      if more then
        let pattern := match use with
          | .withoutStart _ | .withoutEnd _ => true
          | _ => false
        let word ← parts fuel (p.inBraces pattern) []
        return some (.parameter name use word p.isQuoted)
      else return some (.parameter name use [] p.isQuoted)
    | some c =>
      if isNameStart c then
        let more ← joinedWhile isNameChar fuel []
        return some (.parameter (String.ofList (c :: more)) .value [] p.isQuoted)
      else if isSpecial c then return some (.parameter (String.singleton c) .value [] p.isQuoted)
      else
        putBack (some c)
        return none

/-- Reads the documents whose marks have been read. -/
def readDocuments : (fuel : Nat) → Reading Unit
  | 0 => pure ()
  | fuel + 1 => do
    match (← get).awaited with
    | [] => pure ()
    | a :: later =>
      modify fun r => { r with awaited := later }
      let body ← documentBody fuel a
      modify fun r => { r with documents := r.documents ++ [body] }
      readDocuments fuel

def documentBody : (fuel : Nat) → Awaited → Reading Word
  | 0, _ => pure []
  | fuel + 1, a => do
    let p : Place := ⟨.double, false, false, 0, some a, false⟩
    if ← atLineStart p then return []
    else if a.verbatim then return verbatimParts (← verbatimLines fuel a [])
    else do
      let quoted := (← get).quoted
      let body ← parts fuel p []
      modify fun r => { r with quoted }
      return body

/-- The next token as it stands, a word not being looked at. -/
def rawToken : (fuel : Nat) → Reading Token
  | 0 => give .endOfFile
  | fuel + 1 => do
    let r ← get
    if r.held then
      set { r with held := false }
      return r.token
    match ← firstChar (r.rest.length + 1) with
    | none => give .endOfFile
    | some '\n' =>
      newLine
      give .newline
    | some c =>
      match ← operator? c with
      | some t => give t
      | none =>
        if c = '<' || c = '>' then
          redirectionOf c none
        else
          putBack (some c)
          wordToken fuel false

/-- A word, or the redirection that it turns out to begin. -/
def wordToken : (fuel : Nat) → (verbatim : Bool) → Reading Token
  | 0, _ => give .endOfFile
  | fuel + 1, verbatim => do
    modify fun r => { r with quoted := false }
    let word ← parts fuel { Place.plain with verbatim } []
    let r ← get
    match r.rest with
    | c :: rest =>
      match if c = '<' || c = '>' then redirectedDigit? word r.quoted else none with
      | some digit =>
        set { r with rest }
        redirectionOf c digit
      | none =>
        set { r with word }
        give .word
    | [] =>
      set { r with word }
      give .word

/-- The next token. What kinds of tokens are looked for is set beforehand. -/
def token : (fuel : Nat) → Reading Token
  | 0 => give .endOfFile
  | fuel + 1 => do
    let r ← get
    set { r with skipsNewlines := false, findsKeywords := false, findsAliases := false }
    let t ← rawToken fuel
    let t ← if r.skipsNewlines && t = .newline then skipNewlines fuel else pure t
    let after ← get
    if t = .word && !after.quoted then
      match plainText? after.word with
      | none => return t
      | some text =>
        if r.findsKeywords && Token.keywords.contains text then give (.keyword text)
        else if r.findsAliases then
          match alias? after text with
          | none => return t
          | some value =>
            let rest := after.rest
            set { after with
              rest := value.toList ++ rest, active := (text, rest.length) :: after.active
              skipsNewlines := r.skipsNewlines, findsKeywords := r.findsKeywords, findsAliases := true }
            token fuel
        else return t
    else return t

/-- The first token that is no line end. Documents follow the line that names them. -/
def skipNewlines : (fuel : Nat) → Reading Token
  | 0 => give .endOfFile
  | fuel + 1 => do
    readDocuments fuel
    let t ← rawToken fuel
    if t = .newline then skipNewlines fuel else return t

/-- What a redirection leads to; its operator has been read. -/
def redirectionTarget : (fuel : Nat) → Reading Redirection
  | 0 => fail (.unexpected .endOfFile none)
  | fuel + 1 => do
    let r ← get
    match r.document with
    | none =>
      if (← token fuel) ≠ .word then unexpected none
      return r.redirection (← get).word
    | some stripsTabs =>
      let t ← do
        if r.held then token fuel
        else
          match ← firstChar (r.rest.length + 1) with
          | none => give .endOfFile
          | some c =>
            putBack (some c)
            if endsWord c then token fuel else wordToken fuel true
      if t ≠ .word then unexpected none
      let after ← get
      let index := after.documents.length + after.awaited.length
      let next : Awaited := ⟨markText after.word, after.quoted, stripsTabs⟩
      set { after with awaited := after.awaited ++ [next] }
      match r.redirection [] with
      | .pending descriptor _ => return .pending descriptor index
      | other => return other

/-- Redirections as long as there are any. -/
def redirections : (fuel : Nat) → Reading (List Redirection)
  | 0 => pure []
  | fuel + 1 => do
    if (← token fuel) = .redirection then
      let first ← redirectionTarget fuel
      return first :: (← redirections fuel)
    else
      hold
      return []

/-- A list of commands. A whole command (kind 1) ends with its line; a list inside another command
    (kinds 0 and 2) goes on until something closes it, and only of kind 2 it may be empty. -/
def list : (fuel kind : Nat) → Reading Command
  | 0, _ => pure .nothing
  | fuel + 1, kind => listFrom fuel (kind = 1) (kind = 2) .nothing

def listFrom : (fuel : Nat) → (isWhole mayEnd : Bool) → Command → Reading Command
  | 0, _, _, acc => pure acc
  | fuel + 1, isWhole, mayEnd, acc => do
    expectNext (!isWhole) true true
    match ← token fuel with
    | .newline =>
      readDocuments fuel
      return acc
    | .endOfFile =>
      readDocuments fuel
      hold
      modify fun r => { r with token := .endOfFile }
      return acc
    | t =>
      hold
      if mayEnd && !isWhole && t.endsList then return acc
      let next ← andOr fuel
      let separator ← token fuel
      let next := if separator = .operator "&" then inBackground next else next
      let acc := append acc next
      match separator with
      | .endOfFile =>
        readDocuments fuel
        hold
        modify fun r => { r with token := .endOfFile }
        return acc
      | .newline =>
        hold
        listFrom fuel isWhole true acc
      | .operator s =>
        if s = "&" || s = ";" then listFrom fuel isWhole true acc
        else if isWhole then unexpected none
        else
          hold
          return acc
      | _ =>
        if isWhole then unexpected none
        else
          hold
          return acc

def andOr : (fuel : Nat) → Reading Command
  | 0 => pure .nothing
  | fuel + 1 => do andOrFrom fuel (← pipeline fuel)

def andOrFrom : (fuel : Nat) → Command → Reading Command
  | 0, first => pure first
  | fuel + 1, first => do
    match ← token fuel with
    | .operator "&&" =>
      expectCommand
      andOrFrom fuel (.both first (← pipeline fuel))
    | .operator "||" =>
      expectCommand
      andOrFrom fuel (.either first (← pipeline fuel))
    | _ =>
      hold
      return first

def pipeline : (fuel : Nat) → Reading Command
  | 0 => pure .nothing
  | fuel + 1 => do
    let negated := (← token fuel) = .keyword "!"
    if negated then expectNext false true true else hold
    let first ← command fuel
    let more ← pipeTail fuel
    let whole := if more.isEmpty then first else .pipeline (first :: more) false
    return if negated then .not whole else whole

def pipeTail : (fuel : Nat) → Reading (List Command)
  | 0 => pure []
  | fuel + 1 => do
    if (← token fuel) = .operator "|" then
      expectCommand
      let next ← command fuel
      return next :: (← pipeTail fuel)
    else
      hold
      return []

/-- The token that has to come next. -/
def expect : (fuel : Nat) → Token → Reading Unit
  | 0, _ => pure ()
  | fuel + 1, t => do
    if (← token fuel) ≠ t then unexpected (some t)

def command : (fuel : Nat) → Reading Command
  | 0 => fail (.unexpected .endOfFile none)
  | fuel + 1 => do
    let line := (← get).line
    match ← token fuel with
    | .keyword "if" =>
      let body ← branches fuel
      expect fuel (.keyword "fi")
      finish fuel line body
    | .keyword "while" => repeated fuel line false
    | .keyword "until" => repeated fuel line true
    | .keyword "for" => eachLoop fuel line
    | .keyword "case" => selection fuel line
    | .operator "(" =>
      let body ← list fuel 0
      expect fuel (.operator ")")
      finish fuel line (.subshell line body [])
    | .keyword "\x7b" =>
      let body ← list fuel 0
      expect fuel (.keyword "\x7d")
      finish fuel line body
    | .word | .redirection =>
      hold
      simple fuel (← get).line [] [] [] true
    | _ => unexpected none

/-- A compound command with its redirections. -/
def finish : (fuel line : Nat) → Command → Reading Command
  | 0, _, body => pure body
  | fuel + 1, line, body => do
    expectNext false true true
    return withRedirections line body (← redirections fuel)

/-- A condition, what to do if it holds, and what otherwise. -/
def branches : (fuel : Nat) → Reading Command
  | 0 => pure .nothing
  | fuel + 1 => do
    let condition ← list fuel 0
    expect fuel (.keyword "then")
    let yes ← list fuel 0
    match ← token fuel with
    | .keyword "elif" => return .branch condition yes (← branches fuel)
    | .keyword "else" => return .branch condition yes (← list fuel 0)
    | _ =>
      hold
      return .branch condition yes .nothing

def repeated : (fuel line : Nat) → (inverted : Bool) → Reading Command
  | 0, _, _ => pure .nothing
  | fuel + 1, line, inverted => do
    let condition ← list fuel 0
    expect fuel (.keyword "do")
    let body ← list fuel 0
    expect fuel (.keyword "done")
    finish fuel line (.loop inverted condition body)

def eachLoop : (fuel line : Nat) → Reading Command
  | 0, _ => pure .nothing
  | fuel + 1, line => do
    let isWord := (← token fuel) = .word
    let r ← get
    match if isWord && !r.quoted then plainText? r.word else none with
    | none => fail .badLoopVariable
    | some name =>
      if !isName name then fail .badLoopVariable
      expectCommand
      let words ← do
        if (← token fuel) = .keyword "in" then
          let words ← wordsUntil fuel
          let separator := (← get).token
          if separator ≠ .newline && separator ≠ .operator ";" then unexpected none
          pure words
        else
          if (← get).token ≠ .operator ";" then hold
          pure [[.arguments]]
      expectCommand
      expect fuel (.keyword "do")
      let body ← list fuel 0
      expect fuel (.keyword "done")
      finish fuel line (.each line name words body)

def wordsUntil : (fuel : Nat) → Reading (List Word)
  | 0 => pure []
  | fuel + 1 => do
    if (← token fuel) = .word then
      let w := (← get).word
      return w :: (← wordsUntil fuel)
    else return []

def selection : (fuel line : Nat) → Reading Command
  | 0, _ => pure .nothing
  | fuel + 1, line => do
    expect fuel .word
    let word := (← get).word
    expectCommand
    expect fuel (.keyword "in")
    let chosen ← clauses fuel
    finish fuel line (.select line word chosen)

def clauses : (fuel : Nat) → Reading (List (List Word × Command))
  | 0 => pure []
  | fuel + 1 => do
    expectNext true true false
    let t ← token fuel
    if t = .keyword "esac" then return []
    if t = .operator "(" then let _ ← token fuel
    let patterns ← patternsFrom fuel
    if (← get).token ≠ .operator ")" then unexpected (some (.operator ")"))
    let body ← list fuel 2
    expectNext true true false
    match ← token fuel with
    | .keyword "esac" => return [(patterns, body)]
    | .operator ";;" => return (patterns, body) :: (← clauses fuel)
    | _ => unexpected (some (.operator ";;"))

/-- The patterns of a clause, the first of which has been read. -/
def patternsFrom : (fuel : Nat) → Reading (List Word)
  | 0 => pure []
  | fuel + 1 => do
    let pattern := (← get).word
    if (← token fuel) = .operator "|" then
      let _ ← token fuel
      return pattern :: (← patternsFrom fuel)
    else return [pattern]

/-- A simple command, or the definition of a function. Assignments come before all words. -/
def simple : (fuel line : Nat) → (assignments words : List Word) → List Redirection →
    (atFront : Bool) → Reading Command
  | 0, _, _, _, _, _ => fail (.unexpected .endOfFile none)
  | fuel + 1, line, assignments, words, rs, atFront => do
    modify fun r => { r with findsAliases := atFront }
    match ← token fuel with
    | .word =>
      let w := (← get).word
      if atFront && isAssignment w then simple fuel line (assignments ++ [w]) words rs true
      else simple fuel line assignments (words ++ [w]) rs false
    | .redirection =>
      let next ← redirectionTarget fuel
      simple fuel line assignments words (rs ++ [next]) atFront
    | .operator "(" =>
      match words with
      | [w] =>
        if assignments.isEmpty && rs.isEmpty then
          expect fuel (.operator ")")
          match if (← get).quoted then none else plainText? w with
          | none => fail .badFunctionName
          | some name =>
            if !canBeFunction name then fail .badFunctionName
            expectCommand
            let line := (← get).line
            return .define line name (← command fuel)
        else
          hold
          return .simple line assignments words rs
      | _ =>
        hold
        return .simple line assignments words rs
    | _ =>
      hold
      return .simple line assignments words rs

/-- The lines of a document in which nothing is expanded. -/
def verbatimLines : (fuel : Nat) → Awaited → List Char → Reading (List Char)
  | 0, _, seen => pure seen.reverse
  | fuel + 1, a, seen => do
    match ← char with
    | none => return seen.reverse
    | some '\n' =>
      newLine
      let p : Place := ⟨.double, false, false, 0, some a, true⟩
      if ← atLineStart p then return ('\n' :: seen).reverse else verbatimLines fuel a ('\n' :: seen)
    | some c => verbatimLines fuel a (c :: seen)

def verbatimParts : List Char → Word := fun cs => if cs.isEmpty then [] else [.text (String.ofList cs) true]

end

end Reading

/-- More steps than reading a script can take. -/
def Reader.fuel (r : Reader) : Nat := 60 * r.rest.length + 2000 + 40 * (r.aliases.map (·.2.length)).foldl (· + ·) 0

/-- What is left of a script. -/
structure Script where
  rest : List Char
  line : Nat
  deriving Repr

def Script.ofText (text : String) : Script := ⟨text.toList, 1⟩

/-- A complete command, which may be an empty line, and what comes after it. -/
structure Script.Step where
  command : Command
  rest : Script
  /-- Whether the script was seen to end with the command. -/
  isLast : Bool

/-- The next complete command of a script; there is none at the end. -/
def Script.next (s : Script) (aliases : List (String × String)) : Except Problem (Option Script.Step) :=
  if s.rest.isEmpty then .ok none
  else
    let r := Reader.ofText s.rest s.line aliases
    match (Reading.list r.fuel 1).run r with
    | .error e => .error e
    | .ok (c, after) =>
      .ok (some ⟨c.fill after.documents, ⟨after.rest, after.line⟩, after.held && after.token = .endOfFile⟩)

end KernelAudit.Shell
