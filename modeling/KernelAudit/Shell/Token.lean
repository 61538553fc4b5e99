/-! The tokens of a shell script, and what can be wrong with their order. -/

namespace KernelAudit.Shell

inductive Token where
  | endOfFile
  | newline
  | redirection
  | word
  | operator (text : String)
  | keyword (text : String)
  deriving DecidableEq, Repr

namespace Token

def keywords : List String :=
  ["!", "case", "do", "done", "elif", "else", "esac", "fi", "for", "if", "in", "then", "until", "while",
    "\x7b", "\x7d"]

/-- Whether the token closes a list of commands. -/
def endsList : Token → Bool
  | endOfFile => true
  | operator s => s = ")" || s = ";;"
  | keyword s => ["do", "done", "elif", "else", "esac", "fi", "then", "\x7d"].contains s
  | _ => false

/-- The token as messages name it. -/
def name : Token → String
  | endOfFile => "end of file"
  | newline => "newline"
  | redirection => "redirection"
  | word => "word"
  | operator s | keyword s => "\"" ++ s ++ "\""

end Token

/-- What is wrong with a script. -/
inductive Flaw where
  | unexpected (token : Token) (expected : Option Token)
  | unterminatedQuote
  | unclosedBrace
  | unclosedArithmetic
  | unterminatedSubstitution
  | badLoopVariable
  | badFunctionName
  | badDescriptor
  deriving DecidableEq, Repr

def Flaw.message : Flaw → String
  | unexpected token none => token.name ++ " unexpected"
  | unexpected token (some expected) => token.name ++ " unexpected (expecting " ++ expected.name ++ ")"
  | unterminatedQuote => "Unterminated quoted string"
  | unclosedBrace => "Missing '\x7d'"
  | unclosedArithmetic => "Missing '))'"
  | unterminatedSubstitution => "EOF in backquote substitution"
  | badLoopVariable => "Bad for loop variable"
  | badFunctionName => "Bad function name"
  | badDescriptor => "Bad fd number"

/-- A flaw and the line on which it was found. -/
structure Problem where
  line : Nat
  flaw : Flaw
  deriving DecidableEq, Repr

def Problem.message (p : Problem) : String := "Syntax error: " ++ p.flaw.message

end KernelAudit.Shell
