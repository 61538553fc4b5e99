import KernelAudit.Json.Basic
import KernelAudit.Text.Quoted

/-! Why a document is not what its reader expects, and the readers of single values. Every reader
    reports the first problem that it meets from left to right. -/

namespace KernelAudit.Json

inductive Problem where
  /-- The grammar is left, or the value is one that no reader can take in. -/
  | malformed
  | invalidType (found expected : String)
  | invalidValue (found expected : String)
  | invalidLength (length : Nat) (expected : String)
  | unknownVariant (name : String) (known : List String)
  | duplicateField (name : String)
  | missingField (name : String)
  deriving DecidableEq, Repr

namespace Problem

def message : Problem → String
  | .malformed => "malformed document"
  | .invalidType found expected => s!"invalid type: {found}, expected {expected}"
  | .invalidValue found expected => s!"invalid value: {found}, expected {expected}"
  | .invalidLength length expected => s!"invalid length {length}, expected {expected}"
  | .unknownVariant name known =>
    let names := ", ".intercalate (known.map fun k => s!"`{k}`")
    s!"unknown variant `{name}`, expected one of {names}"
  | .duplicateField name => s!"duplicate field `{name}`"
  | .missingField name => s!"missing field `{name}`"

end Problem

/-- The problem that a value is where something else is expected. Of a list or an object no more than
    its opening bracket is read. -/
def unexpected (expected : String) : Json → Problem
  | .null => .invalidType "null" expected
  | .bool b => .invalidType s!"boolean `{b}`" expected
  | .number n =>
    match n.kind with
    | .natural k => .invalidType s!"integer `{k}`" expected
    | .negative k => .invalidType s!"integer `-{k}`" expected
    | .fractional negative code =>
      .invalidType s!"floating point `{Numeral.fractionalText negative code}`" expected
    | .outOfRange => .malformed
  | .string (some s) => .invalidType s!"string {Text.quoted s}" expected
  | .string none => .malformed
  | .list .. => .invalidType "sequence" expected
  | .object .. => .invalidType "map" expected
  | .malformed => .malformed

/-- A string. -/
def readText : Json → Except Problem String
  | .string (some s) => .ok s
  | v => .error (v.unexpected "a string")

/-- A whole number of sixty-four bits. -/
def readWord (v : Json) : Except Problem UInt64 :=
  match v with
  | .number n =>
    match n.kind with
    | .natural k => .ok (UInt64.ofNat k)
    | .negative k => .error (.invalidValue s!"integer `-{k}`" "u64")
    | _ => .error (v.unexpected "u64")
  | v => .error (v.unexpected "u64")

/-- A list, each item of which `item` reads. -/
def readList (item : Json → Except Problem α) : Json → Except Problem (List α)
  | .list items closed => do
    let read ← items.mapM item
    if closed then pure read else throw .malformed
  | v => .error (v.unexpected "a sequence")

end KernelAudit.Json
