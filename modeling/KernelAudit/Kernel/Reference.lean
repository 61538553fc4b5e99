import KernelAudit.Error
import KernelAudit.Kernel.QuickSort

/-! The built-in kernels, which conform to what the validators expect, and the choice between the
    backends. -/

namespace KernelAudit

namespace Reference

/-- The value `count` steps further in a Fibonacci sequence whose last two values are given; sums wrap
    at thirty-two bits. -/
def fibFrom (previous current : Int32) : (count : Nat) → Int32
  | 0 => current
  | count + 1 => fibFrom current (previous + current) count

/-- The Fibonacci sequence that begins `1, 1, 2`; an index below zero gives 1. -/
def fib (index : Int32) : Int32 := fibFrom 1 1 ((max index 1).toInt.toNat - 1)

def sqr (x : Single) : Single := x * x

/-- `((x² + x)² + x)²`, each operation rounded. -/
def ring (x : Single) : Single :=
  let first := x * x
  let second := (first + x) * (first + x)
  (second + x) * (second + x)

/-- Quicksort as a kernel; a range outside the buffer is a fault. -/
def sort [Monad m] (low high : Int32) : Faulty (StateT Buffer m) Unit := do
  match quickSort (← get) low.toInt high.toInt with
  | .ok buffer => set buffer
  | .error e => throw (.text e.message)

def numeric [Monad m] : NumericKernel m where
  fib index := pure (fib index)
  sqr x := pure (sqr x)
  ring x := pure (ring x)

def kernels [Monad m] : KernelSet m where
  numeric := numeric
  sort := ⟨sort⟩

end Reference

/-- Where kernels come from: the built-in ones, or ones linked in when the program is built. -/
inductive Backend where
  | reference
  | linked
  deriving DecidableEq, Repr, Inhabited

namespace Backend

def name : Backend → String
  | .reference => "reference"
  | .linked => "linked"

/-- The backends that this build has, the default first. -/
def available : List Backend := [.reference]

/-- The kernels of a backend; nothing is linked into this build. -/
def kernels [Monad m] : Backend → Except Error (KernelSet m)
  | .reference => .ok Reference.kernels
  | .linked => .error (.backendUnavailable linked.name)

end Backend

end KernelAudit
