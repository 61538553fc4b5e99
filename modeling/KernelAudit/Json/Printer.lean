import KernelAudit.Json.Basic

/-! Writing JSON. The compact form has no blanks; the spread form puts every item and member on a line
    of its own, two blanks deeper than what holds it. Marks of malformed documents are not written. -/

namespace KernelAudit.Json

def hexChar (n : Nat) : Char := (Nat.toDigits 16 n).headD '0'

/-- A character inside a string: quote, backslash and control characters are escaped. -/
def escapeChar (c : Char) : List Char :=
  if c = '"' then ['\\', '"']
  else if c = '\\' then ['\\', '\\']
  else if c = '\x08' then ['\\', 'b']
  else if c = '\x0c' then ['\\', 'f']
  else if c = '\n' then ['\\', 'n']
  else if c = '\r' then ['\\', 'r']
  else if c = '\t' then ['\\', 't']
  else if c.toNat < 0x20 then ['\\', 'u', '0', '0', hexChar (c.toNat / 16), hexChar (c.toNat % 16)]
  else [c]

/-- A string between its quotes. -/
def quoted (s : String) : List Char := '"' :: s.toList.flatMap escapeChar ++ ['"']

/-- Line breaks and blanks of a layout. In the spread form `depth` counts the lists and objects that a
    line is in. -/
inductive Layout where
  | compact
  | spread
  deriving DecidableEq, Repr

namespace Layout

/-- What stands before an item or a closing bracket. -/
def line : Layout → (depth : Nat) → List Char
  | .compact, _ => []
  | .spread, depth => '\n' :: List.replicate (2 * depth) ' '

/-- What stands between a key and its value. -/
def colon : Layout → List Char
  | .compact => [':']
  | .spread => [':', ' ']

end Layout

mutual

/-- The characters of a value whose lines are `depth` deep. -/
def chars (layout : Layout) (depth : Nat) : Json → List Char
  | .null => "null".toList
  | .bool b => (toString b).toList
  | .number n => n.chars
  | .string s => quoted (s.getD "")
  | .list [] _ => ['[', ']']
  | .list (v :: rest) _ =>
    '[' :: layout.line (depth + 1) ++ chars layout (depth + 1) v ++ itemChars layout (depth + 1) rest ++
      layout.line depth ++ [']']
  | .object [] _ => ['\x7b', '\x7d']
  | .object ((key, v) :: rest) _ =>
    '\x7b' :: layout.line (depth + 1) ++ quoted (key.getD "") ++ layout.colon ++
      chars layout (depth + 1) v ++ memberChars layout (depth + 1) rest ++ layout.line depth ++ ['\x7d']
  | .malformed => []

/-- Further items, each behind a comma. -/
def itemChars (layout : Layout) (depth : Nat) : List Json → List Char
  | [] => []
  | v :: rest => ',' :: layout.line depth ++ chars layout depth v ++ itemChars layout depth rest

/-- Further members, each behind a comma. -/
def memberChars (layout : Layout) (depth : Nat) : List (Option String × Json) → List Char
  | [] => []
  | (key, v) :: rest =>
    ',' :: layout.line depth ++ quoted (key.getD "") ++ layout.colon ++ chars layout depth v ++
      memberChars layout depth rest

end

/-- The text of a value. -/
def render (layout : Layout) (v : Json) : String := String.ofList (chars layout 0 v)

end KernelAudit.Json
