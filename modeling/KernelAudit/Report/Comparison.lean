import KernelAudit.Report.Basic

/-! Comparison of a report with an earlier one, the baseline. Every entry falls into one of five
    groups by its own status and by the status that the baseline last recorded under the same id;
    entries of the baseline that were not executed count as absent. -/

namespace KernelAudit

inductive Change where
  | regression
  | newFailure
  | newWarning
  | resolved
  | unchanged
  deriving DecidableEq, Repr

/-- The group of an entry by its previous and its current status. -/
def Change.of (previous current : Option Status) : Change :=
  match previous, current with
  | some .pass, some .fail => .regression
  | some .pass, some .warn => .newWarning
  | some .fail, some .pass | some .warn, some .pass => .resolved
  | none, some .fail => .newFailure
  | none, some .warn => .newWarning
  | _, _ => .unchanged

/-- The status that the entries last recorded under an id. -/
def lastStatus (entries : List Entry) (id : String) : Option Status :=
  entries.reverse.findSome? fun e => if e.id = id then e.status? else none

/-- The ids of a report's entries by group. -/
structure Comparison where
  newFailures : List String
  newWarnings : List String
  resolved : List String
  regressions : List String
  unchanged : List String
  deriving DecidableEq, Repr

namespace Comparison

/-- The ids of the entries that fall into one group, in the order of the report. -/
def group (current baseline : Report) (change : Change) : List String :=
  (current.entries.filter fun e =>
    Change.of (lastStatus baseline.entries e.id) e.status? = change).map Entry.id

def ofReports (current baseline : Report) : Comparison where
  newFailures := group current baseline .newFailure
  newWarnings := group current baseline .newWarning
  resolved := group current baseline .resolved
  regressions := group current baseline .regression
  unchanged := group current baseline .unchanged

/-- Nothing has newly come to fail. -/
def isClean (c : Comparison) : Bool := c.newFailures.isEmpty && c.regressions.isEmpty

/-- The line of a group; an empty group has none. -/
def groupLine (label : String) (ids : List String) : List String :=
  if ids.isEmpty then [] else [s!"  {label}: " ++ ", ".intercalate ids]

def text (c : Comparison) : String :=
  "\n".intercalate (["Baseline comparison:"] ++ groupLine "Regressions" c.regressions ++
    groupLine "New failures" c.newFailures ++ groupLine "New warnings" c.newWarnings ++
    groupLine "Resolved" c.resolved ++ [s!"  Unchanged: {c.unchanged.length}"])

end Comparison

end KernelAudit
