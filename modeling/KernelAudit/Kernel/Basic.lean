import KernelAudit.Binary.Single

/-! The kernels under test. A kernel belongs to a third party: it may keep state of its own, answer
    differently from call to call, and fault instead of answering. `m` is the monad of its effects,
    and whatever a faulting call did before it faulted is done. -/

namespace KernelAudit

/-- What a call that did not return has left behind. A text can be dropped without effect; to drop anything
    else runs code of the kernel's, which may fault in its turn. -/
inductive Fault where
  | text (message : String)
  | blank
  /-- No text, and to drop it raises another fault. -/
  | trap (raised : Fault)
  deriving DecidableEq, Repr

namespace Fault

def text? : Fault → Option String
  | .text message => some message
  | .blank | .trap _ => none

/-- Drops what a fault has left behind, once the fault has been caught. -/
def drop : Fault → Except Fault Unit
  | .text _ | .blank => .ok ()
  | .trap raised => .error raised

end Fault

/-- A computation in which a kernel may fault. -/
abbrev Faulty (m : Type → Type) := ExceptT Fault m

/-- The three numeric kernels. -/
structure NumericKernel (m : Type → Type) where
  fib : Int32 → Faulty m Int32
  sqr : Single → Faulty m Single
  ring : Single → Faulty m Single

abbrev Buffer := Array Int32

/-- A sort kernel rearranges the buffer between two indices, both included. A fault leaves the buffer
    as the kernel had it at that moment. -/
structure SortKernel (m : Type → Type) where
  sort : (low high : Int32) → Faulty (StateT Buffer m) Unit

/-- Sorts a whole buffer: the range runs from 0 to the last index, which is -1 for an empty one. -/
def SortKernel.sortBuffer [Monad m] (kernel : SortKernel m) (buffer : Buffer) : Faulty m Buffer := do
  let (outcome, buffer) ← (kernel.sort 0 (Int32.ofNat buffer.size - 1)).run.run buffer
  match outcome with
  | .ok _ => pure buffer
  | .error fault => throw fault

/-- The kernels that one run is about. The two sides are held apart, so that either can be exchanged. -/
structure KernelSet (m : Type → Type) where
  numeric : NumericKernel m
  sort : SortKernel m

end KernelAudit
