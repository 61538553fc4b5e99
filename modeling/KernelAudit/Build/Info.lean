import KernelAudit.Kernel.Reference

/-! What a build knows about itself. -/

namespace KernelAudit

structure BuildInfo where
  version : String
  commit : Option String
  date : Option String
  target : String
  backends : List Backend
  compiler : Option String
  deriving DecidableEq, Repr

namespace BuildInfo

/-- A line for something that a build may not know. -/
def optionalLine (label : String) : Option String → List String
  | some value => [s!"{label}: {value}"]
  | none => []

def text (b : BuildInfo) : String :=
  let backends := ", ".intercalate (b.backends.map Backend.name)
  "\n".intercalate
    ([s!"refcheck {b.version}"] ++ optionalLine "Commit" b.commit ++ optionalLine "Built" b.date ++
      [s!"Target: {b.target}", s!"Backends: {backends}"] ++ optionalLine "Rustc" b.compiler)

def current : BuildInfo := ⟨"0.1.0", none, none, "x86_64", Backend.available, none⟩

end BuildInfo

end KernelAudit
