import KernelAudit.Error
import KernelAudit.Json.Printer
import KernelAudit.Json.Reader
import KernelAudit.Json.Record
import KernelAudit.Report.Basic

/-! Reports as JSON, and the files in which they are kept to be compared with later runs. Writing puts
    the fields in their declared order. Reading takes them in any order, ignores what it does not know,
    and also takes a list of the fields. A result is told by its `status`, which may stand anywhere. -/

namespace KernelAudit

open Json (Field FieldValues Problem)

/-! ### Writing -/

def CheckResult.toJson (r : CheckResult) : Json :=
  let status := ("status", Json.text r.status.name)
  let duration (d : UInt64) := ("duration_ms", Json.nat d.toNat)
  match r with
  | .pass message d => .record [status, ("message", .text message), duration d]
  | .warn message details d | .fail message details d =>
    .record [status, ("message", .text message), ("details", .text details), duration d]
  | .skip reason => .record [status, ("reason", .text reason)]

def Entry.toJson (e : Entry) : Json :=
  .record
    [("id", .text e.id), ("name", .text e.name), ("category", .text e.category.name),
      ("description", .text e.description), ("result", (e.result.map CheckResult.toJson).getD .null)]

namespace Report

/-- The fields of a report as members of an object. -/
def members (r : Report) : List (String × Json) :=
  [("timestamp", .nat r.timestamp.toNat), ("hostname", .text r.hostname), ("backend", .text r.backend),
    ("checks", .array (r.entries.map Entry.toJson)), ("total_duration_ms", .nat r.totalDurationMs.toNat)]

def toJson (r : Report) : Json := .record r.members

end Report

/-! ### Reading results -/

namespace CheckResult

/-- How deep lists and objects can nest in a member of a result: a reader goes 128 levels deep, and
    four of them are the report, its checks, the check and the result. -/
def memberDepth : Nat := 123

def readStatus : Json → Except Problem Status
  | .string (some s) =>
    match Status.all.find? (·.name = s) with
    | some status => .ok status
    | none => .error (.unknownVariant s (Status.all.map Status.name))
  | v => .error (v.unexpected "variant identifier")

/-- What messages call the results of a status. -/
def title : Status → String
  | .pass => "struct variant CheckResult::Pass"
  | .warn => "struct variant CheckResult::Warn"
  | .fail => "struct variant CheckResult::Fail"
  | .skip => "struct variant CheckResult::Skip"

/-- The fields that go with a status. -/
def fields : Status → List Field
  | .pass => [.of "message" Json.readText, .of "duration_ms" Json.readWord]
  | .warn | .fail =>
    [.of "message" Json.readText, .of "details" Json.readText, .of "duration_ms" Json.readWord]
  | .skip => [.of "reason" Json.readText]

/-- The result that has the given field values. -/
def ofValues (values : FieldValues) : Status → Except Problem CheckResult
  | .pass => do
    return .pass (← Json.required values "message" Json.readText)
      (← Json.required values "duration_ms" Json.readWord)
  | .warn => do
    return .warn (← Json.required values "message" Json.readText)
      (← Json.required values "details" Json.readText) (← Json.required values "duration_ms" Json.readWord)
  | .fail => do
    return .fail (← Json.required values "message" Json.readText)
      (← Json.required values "details" Json.readText) (← Json.required values "duration_ms" Json.readWord)
  | .skip => do
    return .skip (← Json.required values "reason" Json.readText)

/-- The status among the members of a result. All members are taken in before any of them is looked
    at, except for the status, which is looked at where it stands. -/
def findStatus (found : Option Status) :
    List (Option String × Json) → Except Problem (Option Status)
  | [] => .ok found
  | (none, _) :: _ => .error .malformed
  | (some name, v) :: rest => do
    if name = "status" then
      if found.isSome then throw (.duplicateField name)
      findStatus (some (← readStatus v)) rest
    else
      if !v.isReadable memberDepth then throw .malformed
      findStatus found rest

def ofJson : Json → Except Problem CheckResult
  | .object members closed => do
    let found ← findStatus none members
    if !closed then throw .malformed
    match found with
    | none => throw (.missingField "status")
    | some status =>
      let others := members.filter fun (name, _) => name ≠ some "status"
      ofValues (← Json.readRecord (title status) (fields status) (.object others true)) status
  | .list [] closed => .error (if closed then .missingField "status" else .malformed)
  | .list (v :: rest) closed => do
    let status ← readStatus v
    if !(Json.allReadable rest memberDepth && closed) then throw .malformed
    let count := (fields status).length
    let values ← Json.readRecord (title status) (fields status) (.list (rest.take count) true)
    if count < rest.length then
      throw (.invalidLength rest.length s!"{Json.elements count} in sequence")
    ofValues values status
  | v => .error (v.unexpected "internally tagged enum CheckResult")

end CheckResult

/-! ### Reading entries and reports -/

/-- The category of a name. -/
def Category.ofName (name : String) : Except Problem Category :=
  match Category.all.find? (·.name = name) with
  | some category => .ok category
  | none => .error (.unknownVariant name (Category.all.map Category.name))

/-- A category is a name, or an object that gives null under the name. -/
def Category.ofJson : Json → Except Problem Category
  | .string (some name) => ofName name
  | .object ((some name, v) :: rest) closed => do
    let category ← ofName name
    match v with
    | .null => if rest.isEmpty && closed then pure category else throw .malformed
    | v => throw (v.unexpected "unit")
  | _ => .error .malformed

namespace Entry

def fields : List Field :=
  [.of "id" Json.readText, .of "name" Json.readText, .of "category" Category.ofJson,
    .of "description" Json.readText, .of "result" (Json.readOptional CheckResult.ofJson)]

def ofJson (v : Json) : Except Problem Entry := do
  let values ← Json.readRecord "struct Check" fields v
  return {
    id := ← Json.required values "id" Json.readText
    name := ← Json.required values "name" Json.readText
    category := ← Json.required values "category" Category.ofJson
    description := ← Json.required values "description" Json.readText
    result := ← Json.optional values "result" CheckResult.ofJson }

end Entry

namespace Report

def fields : List Field :=
  [.of "timestamp" Json.readWord, .of "hostname" Json.readText, .of "backend" Json.readText,
    .of "checks" (Json.readList Entry.ofJson), .of "total_duration_ms" Json.readWord]

def ofJson (v : Json) : Except Problem Report := do
  let values ← Json.readRecord "struct ValidationReport" fields v
  return {
    timestamp := ← Json.required values "timestamp" Json.readWord
    hostname := ← Json.required values "hostname" Json.readText
    backend := ← Json.required values "backend" Json.readText
    entries := ← Json.required values "checks" (Json.readList Entry.ofJson)
    totalDurationMs := ← Json.required values "total_duration_ms" Json.readWord }

end Report

/-! ### Files -/

namespace Baseline

/-- The content of the file that keeps a report. -/
def encode (r : Report) : String := Json.render .spread r.toJson

def decode (text : String) : Except Problem Report := do
  let document := Json.read text
  let report ← Report.ofJson document.value
  if document.ended then pure report else throw .malformed

/-- Why a baseline cannot be loaded. -/
inductive LoadProblem where
  | unreadable (reason : String)
  | undecodable (problem : Problem)
  deriving DecidableEq, Repr

def LoadProblem.error (path : String) : LoadProblem → Error
  | .unreadable reason => .io s!"load_baseline {path}" reason
  | .undecodable problem => .parse s!"load_baseline {path}" problem.message

def saveError (path reason : String) : Error := .io s!"save_as_baseline {path}" reason

/-- The report in a file that has the given content, unless the file could not be read. -/
def load : Except String ByteArray → Except LoadProblem Report
  | .error reason => .error (.unreadable reason)
  | .ok content =>
    match String.fromUTF8? content with
    | none => .error (.unreadable "stream did not contain valid UTF-8")
    | some text => (decode text).mapError .undecodable

end Baseline

end KernelAudit
