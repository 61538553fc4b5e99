import KernelAudit.CommandLine.Basic
import KernelAudit.Report.Baseline

/-! What the program needs from the machine it runs on. Every effect is named here, so the program can
    be run on a machine that is a value as well as on a real one. -/

namespace KernelAudit

structure System (m : Type → Type) where
  host : Host m
  /-- The kernels of a backend. -/
  kernels : Backend → Except Error (KernelSet m)
  launch : Probe.Launcher m
  /-- The content of a file, or why it cannot be read. -/
  readFile : Text.Raw → m (Except String ByteArray)
  /-- Gives a file a new content; a refusal says why. -/
  writeFile : Text.Raw → String → m (Except String Unit)
  /-- Writes a text to the standard output; a refusal says why. -/
  print : String → ExceptT String m Unit
  /-- Writes a text to the standard error; a refusal says why. -/
  printError : String → ExceptT String m Unit
  /-- The standard output, character by character. -/
  sink : Numeric.Sink m

namespace System

variable {m : Type → Type} [Monad m]

def saveBaseline (sys : System m) (report : Report) (path : Text.Raw) : m (Except Error Unit) := do
  return (← sys.writeFile path (Baseline.encode report)).mapError (Baseline.saveError path.display)

def loadBaseline (sys : System m) (path : Text.Raw) : m (Except Baseline.LoadProblem Report) := do
  return Baseline.load (← sys.readFile path)

end System

end KernelAudit
