/-! XML elements and how they are written. Every attribute value and every text is escaped, so nothing
    in them can be taken for markup. -/

namespace KernelAudit

/-- An element: with nothing in it, with a text on its own line, or with elements on lines of theirs. -/
inductive Xml where
  | empty (name : String) (attributes : List (String × String))
  | text (name : String) (attributes : List (String × String)) (content : String)
  | node (name : String) (attributes : List (String × String)) (children : List Xml)

namespace Xml

/-- A character as text or in an attribute value. -/
def escapeChar (c : Char) : List Char :=
  if c = '&' then "&amp;".toList
  else if c = '<' then "&lt;".toList
  else if c = '>' then "&gt;".toList
  else if c = '"' then "&quot;".toList
  else if c = '\'' then "&apos;".toList
  else [c]

def escape (s : String) : String := String.ofList (s.toList.flatMap escapeChar)

/-- An attribute after the blank that sets it off. -/
def attributeText : String × String → String
  | (name, value) => " " ++ name ++ "=\"" ++ escape value ++ "\""

/-- The beginning of a tag: its name and attributes. -/
def opening (name : String) (attributes : List (String × String)) : String :=
  "<" ++ name ++ String.join (attributes.map attributeText)

def closing (name : String) : String := "</" ++ name ++ ">"

/-- The blanks before a line inside `depth` elements. -/
def indent (depth : Nat) : String := String.ofList (List.replicate (2 * depth) ' ')

mutual

/-- The lines of an element that stands inside `depth` others. -/
def lines (depth : Nat) : Xml → List String
  | .empty name attributes => [indent depth ++ opening name attributes ++ " />"]
  | .text name attributes content =>
    [indent depth ++ opening name attributes ++ ">" ++ escape content ++ closing name]
  | .node name attributes children =>
    (indent depth ++ opening name attributes ++ ">") :: childLines (depth + 1) children ++
      [indent depth ++ closing name]

def childLines (depth : Nat) : List Xml → List String
  | [] => []
  | x :: rest => lines depth x ++ childLines depth rest

end

/-- The document that has the given root. -/
def document (root : Xml) : String :=
  "\n".intercalate ("<?xml version=\"1.0\" encoding=\"UTF-8\"?>" :: lines 0 root)

end Xml

end KernelAudit
