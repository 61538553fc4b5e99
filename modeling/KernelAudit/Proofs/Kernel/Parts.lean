import KernelAudit.Proofs.Kernel.Coupling
import KernelAudit.Proofs.Log

/-! Parts of a machine. A computation may leave a part alone (`Spares`), or do there what another does on the
    part as a machine of its own (`Shows` couples the two). Kernels that are put on parts of their own do both:
    each acts on its part and leaves the others alone. -/

namespace KernelAudit

variable {σ ν α : Type}

/-! ### Computations that leave a part alone -/

/-- `x` leaves a part of the machine as it finds it. -/
def Spares (part : σ → ν) (x : StateM σ α) : Prop := ∀ s, part (x.run s).2 = part s

structure NumericKernel.Spares (part : σ → ν) (kernel : NumericKernel (StateM σ)) : Prop where
  fib : ∀ index, KernelAudit.Spares part (kernel.fib index).run
  sqr : ∀ x, KernelAudit.Spares part (kernel.sqr x).run
  ring : ∀ x, KernelAudit.Spares part (kernel.ring x).run

structure SortKernel.Spares (part : σ → ν) (kernel : SortKernel (StateM σ)) : Prop where
  sort : ∀ low high buffer, KernelAudit.Spares part ((kernel.sort low high).run.run buffer)

structure Host.Spares (part : σ → ν) (host : Host (StateM σ)) : Prop where
  clock : KernelAudit.Spares part host.clock
  entropy : KernelAudit.Spares part host.entropy

/-- The two states are one, and the part of it is `n`. -/
def Unmoved (part : σ → ν) (n : ν) (s s' : σ) : Prop := s = s' ∧ part s = n

def Shows (part : σ → ν) (s : σ) (n : ν) : Prop := part s = n

section
variable {part : σ → ν}

theorem EndAlike.refl {ε : Type} (outcome : Except ε α) : EndAlike Eq outcome outcome := by
  cases outcome with
  | ok a => exact .ok rfl
  | error e => exact .error e

/-- What leaves the part alone is coupled with itself wherever the part stays the same. -/
theorem Spares.coupled {rel : α → α → Prop} {x : StateM σ α} (h : Spares part x) (hrefl : ∀ a, rel a a) (n : ν) :
    Coupled (Unmoved part n) rel x x := by
  refine ⟨?_⟩
  rintro s _ ⟨rfl, hs⟩
  exact ⟨hrefl _, rfl, (h s).trans hs⟩

theorem Coupled.spares {rel : α → α → Prop} {x : StateM σ α} (h : ∀ n, Coupled (Unmoved part n) rel x x) :
    Spares part x := by
  intro s
  obtain ⟨-, -, hpart⟩ := (h (part s)).run s s ⟨rfl, rfl⟩
  exact hpart

theorem NumericKernel.Spares.coupled {kernel : NumericKernel (StateM σ)} (h : kernel.Spares part) (n : ν) :
    kernel.Coupled (Unmoved part n) kernel where
  fib index := (h.fib index).coupled .refl n
  sqr x := (h.sqr x).coupled .refl n
  ring x := (h.ring x).coupled .refl n

theorem SortKernel.Spares.coupled {kernel : SortKernel (StateM σ)} (h : kernel.Spares part) (n : ν) :
    kernel.Coupled (Unmoved part n) kernel where
  sort low high buffer := (h.sort low high buffer).coupled (fun _ => rfl) n

namespace Host.Spares
variable {host : Host (StateM σ)}

theorem coupled (h : host.Spares part) (n : ν) : host.Coupled (Unmoved part n) Eq host where
  clock := h.clock.coupled (fun _ => trivial) n
  entropy := h.entropy.coupled (fun _ => rfl) n

/-- To the part, such a host is no more than one on which no time passes. -/
theorem coupled_idle (h : host.Spares part) : host.Coupled (Shows part) (fun _ _ => True) Host.idle where
  clock := ⟨fun s _ hs => ⟨trivial, (h.clock s).trans hs⟩⟩
  entropy := ⟨fun s _ hs => ⟨trivial, (h.entropy s).trans hs⟩⟩

end Host.Spares

end

/-! ### Kernels on a part -/

section
variable {σ ν μ α : Type} (part : σ → ν) (put : σ → ν → σ)

def onPart (x : StateM ν α) : StateM σ α := do
  let s ← get
  let r := x.run (part s)
  set (put s r.2)
  pure r.1

def NumericKernel.onPart (kernel : NumericKernel (StateM ν)) : NumericKernel (StateM σ) where
  fib index := ExceptT.mk (KernelAudit.onPart part put (kernel.fib index).run)
  sqr x := ExceptT.mk (KernelAudit.onPart part put (kernel.sqr x).run)
  ring x := ExceptT.mk (KernelAudit.onPart part put (kernel.ring x).run)

def SortKernel.onPart (kernel : SortKernel (StateM ν)) : SortKernel (StateM σ) where
  sort low high := ExceptT.mk fun buffer => KernelAudit.onPart part put ((kernel.sort low high).run.run buffer)

def Host.onPart (host : Host (StateM ν)) : Host (StateM σ) where
  hostname := KernelAudit.onPart part put host.hostname
  timestamp := KernelAudit.onPart part put host.timestamp
  clock := KernelAudit.onPart part put host.clock
  entropy := KernelAudit.onPart part put host.entropy

variable {part put}

theorem coupled_onPart (hput : ∀ s n, part (put s n) = n) {rel : α → α → Prop} (hrefl : ∀ a, rel a a)
    (x : StateM ν α) : Coupled (Shows part) rel (onPart part put x) x := by
  refine ⟨?_⟩
  rintro s _ rfl
  exact ⟨hrefl _, hput _ _⟩

theorem NumericKernel.coupled_onPart (hput : ∀ s n, part (put s n) = n) (kernel : NumericKernel (StateM ν)) :
    (kernel.onPart part put).Coupled (Shows part) kernel where
  fib _ := KernelAudit.coupled_onPart hput EndAlike.refl _
  sqr _ := KernelAudit.coupled_onPart hput EndAlike.refl _
  ring _ := KernelAudit.coupled_onPart hput EndAlike.refl _

theorem SortKernel.coupled_onPart (hput : ∀ s n, part (put s n) = n) (kernel : SortKernel (StateM ν)) :
    (kernel.onPart part put).Coupled (Shows part) kernel where
  sort _ _ _ := KernelAudit.coupled_onPart hput (fun _ => rfl) _

variable {other : σ → μ} (hput : ∀ s n, other (put s n) = other s)
include hput

theorem spares_onPart (x : StateM ν α) : Spares other (onPart part put x) := fun _ => hput _ _

theorem NumericKernel.spares_onPart (kernel : NumericKernel (StateM ν)) : (kernel.onPart part put).Spares other where
  fib _ := KernelAudit.spares_onPart hput _
  sqr _ := KernelAudit.spares_onPart hput _
  ring _ := KernelAudit.spares_onPart hput _

theorem SortKernel.spares_onPart (kernel : SortKernel (StateM ν)) : (kernel.onPart part put).Spares other where
  sort _ _ _ := KernelAudit.spares_onPart hput _

theorem Host.spares_onPart (host : Host (StateM ν)) : (host.onPart part put).Spares other where
  clock := KernelAudit.spares_onPart hput _
  entropy := KernelAudit.spares_onPart hput _

end

end KernelAudit
