import KernelAudit.Decimal.Fixed
import KernelAudit.Report.Basic
import KernelAudit.Xml.Element

/-! Reports as JUnit documents: a suite for every category that has entries, with a test case for each
    of them. A warning counts as a success that has something to say. -/

namespace KernelAudit.JUnit

/-- A time attribute. -/
def timeText (milliseconds : Nat) : String := secondsText milliseconds 3

/-- What a test case has inside. -/
def body : CheckResult → Xml
  | .pass message _ => .text "system-out" [] message
  | .warn message details _ => .text "system-out" [] s!"WARNING: {message} - {details}"
  | .fail message details _ => .text "failure" [("message", message)] details
  | .skip reason => .empty "skipped" [("message", reason)]

def testCase (suite : String) (e : Entry) : Xml :=
  let attributes :=
    [("name", e.id), ("classname", "refcheck." ++ suite), ("time", timeText e.durationMs)]
  match e.result with
  | some result => .node "testcase" attributes [body result]
  | none => .empty "testcase" attributes

/-- How many of the entries have a status. -/
def countOf (entries : List Entry) (s : Status) : Nat := entries.countP (·.status? = some s)

/-- The suite of a category's entries. -/
def suite (category : Category) (entries : List Entry) : Xml :=
  .node "testsuite"
    [("name", category.slug), ("tests", toString entries.length),
      ("failures", toString (countOf entries .fail)), ("errors", "0"),
      ("skipped", toString (countOf entries .skip)),
      ("time", timeText ((entries.map Entry.durationMs).foldl (· + ·) 0))]
    (entries.map (testCase category.slug))

/-- The suites of a report; a category without entries has none. -/
def suites (r : Report) : List Xml :=
  (Category.all.filter fun c => !(r.inCategory c).isEmpty).map fun c => suite c (r.inCategory c)

def root (r : Report) : Xml :=
  .node "testsuites"
    [("tests", toString r.summary.total), ("failures", toString r.summary.failed), ("errors", "0"),
      ("skipped", toString r.summary.skipped), ("time", timeText r.totalDurationMs.toNat)]
    (suites r)

def render (r : Report) : String := (root r).document

end KernelAudit.JUnit
