import KernelAudit.Json.Numeral

/-! JSON documents, sound or not. A document that breaks off is a tree too: its last value is marked
    as malformed, or the list or object it broke off in is marked as not closed. So a document can be
    read from left to right up to the first place that matters to its reader. -/

namespace KernelAudit

/-- A string is absent when an escape in it spells half of a surrogate pair; a reader that passes over
    the string does not mind. -/
inductive Json where
  | null
  | bool (b : Bool)
  | number (n : Numeral)
  | string (s : Option String)
  | list (items : List Json) (closed : Bool)
  | object (members : List (Option String × Json)) (closed : Bool)
  | malformed
  deriving Repr

namespace Json

def text (s : String) : Json := .string (some s)

def nat (n : Nat) : Json := .number (.ofNat n)

/-- An object with the given members. -/
def record (members : List (String × Json)) : Json :=
  .object (members.map fun (key, value) => (some key, value)) true

/-- A list with the given items. -/
def array (items : List Json) : Json := .list items true

mutual

/-- Whether a reader that passes over the value comes to its end. -/
def isWhole : Json → Bool
  | .malformed => false
  | .list items closed => allWhole items && closed
  | .object members closed => membersWhole members && closed
  | _ => true

def allWhole : List Json → Bool
  | [] => true
  | v :: rest => v.isWhole && allWhole rest

def membersWhole : List (Option String × Json) → Bool
  | [] => true
  | (_, v) :: rest => v.isWhole && membersWhole rest

end

mutual

/-- Whether a reader can take the whole value in, lists and objects nested at most `depth` deep. -/
def isReadable : Json → (depth : Nat) → Bool
  | .malformed, _ => false
  | .string s, _ => s.isSome
  | .number n, _ => n.kind != .outOfRange
  | .list items closed, depth => 0 < depth && allReadable items (depth - 1) && closed
  | .object members closed, depth => 0 < depth && membersReadable members (depth - 1) && closed
  | _, _ => true

def allReadable : List Json → Nat → Bool
  | [], _ => true
  | v :: rest, depth => v.isReadable depth && allReadable rest depth

def membersReadable : List (Option String × Json) → Nat → Bool
  | [], _ => true
  | (key, v) :: rest, depth => key.isSome && v.isReadable depth && membersReadable rest depth

end

end Json

end KernelAudit
