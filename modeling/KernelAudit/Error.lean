/-! What can go wrong outside the checks themselves, and how each failure is worded. -/

namespace KernelAudit

inductive Error where
  /-- A kernel backend that this build does not have. -/
  | backendUnavailable (backend : String)
  /-- A setting that the validators cannot honour. -/
  | invalidConfig (reason : String)
  | timeout (operation : String) (limitMs : UInt64)
  | io (context reason : String)
  | parse (context reason : String)
  /-- An external command that could not be run. -/
  | command (program reason : String)
  deriving DecidableEq, Repr

namespace Error

def message : Error → String
  | .backendUnavailable backend => s!"Kernel backend '{backend}' is not available in this build"
  | .invalidConfig reason => s!"Invalid configuration: {reason}"
  | .timeout operation limit => s!"Timeout after {limit}ms: {operation}"
  | .io context reason => s!"I/O error in {context}: {reason}"
  | .parse context reason => s!"Parse error in {context}: {reason}"
  | .command program reason => s!"Command '{program}' error: {reason}"

end Error

end KernelAudit
