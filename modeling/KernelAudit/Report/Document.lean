import KernelAudit.Report.Baseline
import KernelAudit.Time.Civil

/-! Reports as JSON documents for other programs: the fields of the report, the date it was made on in
    words, and its summary. A document can serve as a baseline, for a reader of baselines passes over
    what is added. -/

namespace KernelAudit

def Summary.toJson (s : Summary) : Json :=
  .record
    [("passed", .nat s.passed), ("warned", .nat s.warned), ("failed", .nat s.failed),
      ("skipped", .nat s.skipped), ("total", .nat s.total), ("total_duration_ms", .nat s.totalDurationMs)]

namespace Report

def document (r : Report) : Json :=
  .record (r.members ++
    [("generated_at", .text (timestampText r.timestamp)), ("summary", r.summary.toJson)])

/-- The text of the document. -/
def documentText (layout : Json.Layout) (r : Report) : String := Json.render layout r.document

end Report

end KernelAudit
