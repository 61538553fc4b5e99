import KernelAudit.Json.Problem

/-! Records as JSON: an object with one member for each field, in any order and among unknown members,
    or a list of the fields in their declared order. A record is first gone through from left to right,
    which finds every problem of its members; after that its fields are looked up by name. -/

namespace KernelAudit.Json

/-- A field of a record: its name, and what is wrong with a value that cannot stand there. -/
structure Field where
  name : String
  check : Json → Except Problem Unit

/-- The field whose values `read` takes in. -/
def Field.of (name : String) (read : Json → Except Problem α) : Field :=
  ⟨name, fun v => (read v).map fun _ => ()⟩

/-- The values that stand for the fields of a record, by name. -/
abbrev FieldValues := List (String × Json)

/-- The first problem among the members of an object. `seen` holds the known names that have been met;
    unknown members only have to come to an end. -/
def checkMembers (fields : List Field) (seen : List String) :
    List (Option String × Json) → Except Problem Unit
  | [] => .ok ()
  | (none, _) :: _ => .error .malformed
  | (some name, v) :: rest =>
    match fields.find? (·.name = name) with
    | none => do
      if !v.isWhole then throw .malformed
      checkMembers fields seen rest
    | some field => do
      if name ∈ seen then throw (.duplicateField name)
      field.check v
      checkMembers fields (name :: seen) rest

/-- The first problem among the items of a list that stands for a record; `length` counts those before
    them. -/
def checkItems (expected : String) (closed : Bool) (length : Nat) :
    List Field → List Json → Except Problem Unit
  | [], [] => if closed then .ok () else .error .malformed
  | [], _ :: _ => .error .malformed
  | _ :: _, [] => .error (if closed then .invalidLength length expected else .malformed)
  | field :: fields, v :: rest => do
    field.check v
    checkItems expected closed (length + 1) fields rest

/-- The members that have a readable name. -/
def named (members : List (Option String × Json)) : FieldValues :=
  members.filterMap fun (name, v) => name.map fun n => (n, v)

/-- A number of elements in words. -/
def elements (n : Nat) : String := if n = 1 then "1 element" else s!"{n} elements"

/-- The values of a record, if nothing is wrong with any of them. `title` is what a message calls the
    record. -/
def readRecord (title : String) (fields : List Field) : Json → Except Problem FieldValues
  | .object members closed => do
    checkMembers fields [] members
    if closed then pure (named members) else throw .malformed
  | .list items closed => do
    checkItems s!"{title} with {elements fields.length}" closed 0 fields items
    pure ((fields.map Field.name).zip items)
  | v => .error (v.unexpected title)

/-- The value of a field that has to be there. -/
def required (values : FieldValues) (name : String) (read : Json → Except Problem α) : Except Problem α :=
  match values.lookup name with
  | some v => read v
  | none => .error (.missingField name)

/-- The value of a field that may be left out or null. -/
def readOptional (read : Json → Except Problem α) : Json → Except Problem (Option α)
  | .null => .ok none
  | v => (read v).map some

def optional (values : FieldValues) (name : String) (read : Json → Except Problem α) :
    Except Problem (Option α) :=
  match values.lookup name with
  | some v => readOptional read v
  | none => .ok none

end KernelAudit.Json
