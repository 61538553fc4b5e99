import KernelAudit.Check.Summary

/-! Reports: the entries of one run with when, where and against which kernels it ran. A report grows
    by one entry at a time; what is asked of it is asked of its entries. -/

namespace KernelAudit

structure Report where
  /-- Seconds since 1970. -/
  timestamp : UInt64
  hostname : String
  /-- What the checks ran against. -/
  backend : String
  entries : List Entry
  totalDurationMs : UInt64
  deriving DecidableEq, Repr

namespace Report

def empty : Report := ⟨0, "", "", [], 0⟩

def add (r : Report) (e : Entry) : Report := { r with entries := r.entries ++ [e] }

def summary (r : Report) : Summary := .ofEntries r.entries

/-- The entries that were executed and have the given status. -/
def withStatus (r : Report) (s : Status) : List Entry := r.entries.filter (·.status? = some s)

def failures (r : Report) : List Entry := r.withStatus .fail

def warnings (r : Report) : List Entry := r.withStatus .warn

def hasFailures (r : Report) : Bool := r.entries.any (·.status? = some .fail)

def inCategory (r : Report) (c : Category) : List Entry := r.entries.filter (·.category = c)

end Report

end KernelAudit
