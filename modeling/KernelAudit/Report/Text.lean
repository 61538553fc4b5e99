import KernelAudit.Decimal.Fixed
import KernelAudit.Report.Basic
import KernelAudit.Time.Civil

/-! Reports for a reader at a terminal: a head, the entries of every category under a heading, and a
    summary. The quiet form keeps only failures and warnings, and only the headings that stand above
    some of them. -/

namespace KernelAudit

/-- How a report is printed. -/
structure TextStyle where
  /-- Whether status tags are coloured. -/
  color : Bool
  /-- Whether descriptions, details and times are shown. -/
  verbose : Bool
  /-- Whether only failures and warnings are shown. -/
  quiet : Bool
  deriving DecidableEq, Repr

namespace TextStyle

/-- The line between the parts of a report. -/
def rule : String := String.ofList (List.replicate 80 '-')

def tagText : Option Status → String
  | some .pass => "[PASS]"
  | some .warn => "[WARN]"
  | some .fail => "[FAIL]"
  | some .skip => "[SKIP]"
  | none => "[----]"

/-- The terminal's number for the colour of a tag: green, yellow, red, or grey. -/
def tagColor : Option Status → String
  | some .pass => "32"
  | some .warn => "33"
  | some .fail => "31"
  | some .skip | none => "90"

def tag (style : TextStyle) (status : Option Status) : String :=
  if style.color then "\x1b[" ++ tagColor status ++ "m" ++ tagText status ++ "\x1b[0m"
  else tagText status

def resultText (style : TextStyle) : Option CheckResult → String
  | some (.pass message duration) => if style.verbose then s!"{message} ({duration}ms)" else message
  | some (.warn message details duration) | some (.fail message details duration) =>
    if style.verbose then s!"{message} - {details} ({duration}ms)" else message
  | some (.skip reason) => reason
  | none => "Not executed"

/-- The lines of an entry. -/
def entryLines (style : TextStyle) (e : Entry) : List String :=
  let first := s!"  {style.tag e.status?} {e.id}: {e.name} ({style.resultText e.result})"
  if style.verbose && e.description ≠ "" then [first, "         " ++ e.description] else [first]

/-- The entries that are shown. -/
def shown (style : TextStyle) (entries : List Entry) : List Entry :=
  if style.quiet then entries.filter Entry.isIssue else entries

/-- The lines of a category; without entries to show there are none. -/
def categoryLines (style : TextStyle) (r : Report) (c : Category) : List String :=
  match style.shown (r.inCategory c) with
  | [] => []
  | entries => c.heading :: entries.flatMap style.entryLines ++ [""]

def headLines (r : Report) : List String :=
  [rule, "refcheck validation report", s!"Host: {r.hostname}", s!"Backend: {r.backend}",
    s!"Timestamp: {timestampText r.timestamp}", rule, ""]

/-- What an exit code says. -/
def exitText (code : Nat) : String :=
  if code = 1 then "failures detected" else if code = 2 then "warnings detected" else "all checks passed"

def countLine (s : Summary) : String :=
  s!"SUMMARY: {s.passed} passed, {s.warned} warnings, {s.failed} failed, {s.skipped} skipped"

def tailLines (r : Report) : List String :=
  let code := r.summary.exitCode
  [rule, countLine r.summary, s!"Total time: {secondsText r.totalDurationMs.toNat 1}s",
    s!"Exit code: {code} ({exitText code})", rule]

def lines (style : TextStyle) (r : Report) : List String :=
  headLines r ++ Category.all.flatMap (style.categoryLines r) ++ tailLines r

def render (style : TextStyle) (r : Report) : String := "\n".intercalate (style.lines r)

end TextStyle

end KernelAudit
