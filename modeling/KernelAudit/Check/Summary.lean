import KernelAudit.Check.Basic

/-! Counts over the entries of a report, and the exit code that follows from them. Entries that were
    skipped and entries that were never executed are counted together. The numbers have no bound here; words
    hold the same numbers while these fit into them (`Summary.toSummary_words`). -/

namespace KernelAudit

structure Summary where
  passed : Nat
  warned : Nat
  failed : Nat
  skipped : Nat
  total : Nat
  totalDurationMs : Nat
  deriving DecidableEq, Repr

namespace Summary

def empty : Summary := ⟨0, 0, 0, 0, 0, 0⟩

/-- The summary with one more entry counted. -/
def add (s : Summary) (e : Entry) : Summary :=
  let s := { s with total := s.total + 1, totalDurationMs := s.totalDurationMs + e.durationMs }
  match e.status? with
  | some .pass => { s with passed := s.passed + 1 }
  | some .warn => { s with warned := s.warned + 1 }
  | some .fail => { s with failed := s.failed + 1 }
  | some .skip | none => { s with skipped := s.skipped + 1 }

def ofEntries (entries : List Entry) : Summary := entries.foldl add empty

/-- 1 if anything failed, 2 if there are warnings only, 0 otherwise. -/
def exitCode (s : Summary) : Nat :=
  if s.failed > 0 then 1 else if s.warned > 0 then 2 else 0

end Summary

end KernelAudit
