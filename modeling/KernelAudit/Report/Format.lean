import KernelAudit.Report.Document
import KernelAudit.Report.JUnit
import KernelAudit.Report.Text

/-! The forms in which a report can be asked for. -/

namespace KernelAudit

inductive OutputFormat where
  | text
  | json
  | junit
  deriving DecidableEq, Repr, Inhabited

namespace OutputFormat

def all : List OutputFormat := [.text, .json, .junit]

def name : OutputFormat → String
  | .text => "text"
  | .json => "json"
  | .junit => "junit"

/-- A report in a form; the style concerns the text form only. -/
def render (format : OutputFormat) (style : TextStyle) (r : Report) : String :=
  match format with
  | .text => style.render r
  | .json => r.documentText .spread
  | .junit => JUnit.render r

end OutputFormat

end KernelAudit
