import KernelAudit.Kernel.Basic
import KernelAudit.Proofs.Log

/-! Kernels whose uses are written down, each with the fault that it ended in, if it did. A computation that is
    handed such kernels does what it does with the kernels themselves, and its uses of them tell whether it came
    to a fault, and to which: `Mirrors` says so, and is kept by every way in which computations are put
    together. A fault ends a computation, so it stands behind all other uses. -/

namespace KernelAudit

/-- A use of a sort kernel: the buffer as it was then, and the range. -/
structure SortCall where
  buffer : Buffer
  low : Int32
  high : Int32
  deriving DecidableEq, Repr

/-- A use of a sort kernel, with the buffer that it left or the fault that it ended in. -/
structure SortUse where
  call : SortCall
  outcome : Except Fault Buffer

/-- A call of one of the kernels. -/
inductive KernelCall where
  | fib (index : Int32)
  | sqr (x : Single)
  | ring (x : Single)
  | sort (call : SortCall)
  deriving DecidableEq, Repr

/-- A call, and the fault that it ended in if it did not return. -/
structure KernelUse where
  call : KernelCall
  fault? : Option Fault
  deriving DecidableEq, Repr

/-- The fault in an outcome; `fault?` tells which errors are faults. -/
def faultIn {ε α : Type} (fault? : ε → Option Fault) : Except ε α → Option Fault
  | .ok _ => none
  | .error e => fault? e

def SortUse.uses (use : SortUse) : List KernelUse := [⟨.sort use.call, faultIn some use.outcome⟩]

namespace SortKernel
variable {m : Type → Type} [Monad m] {τ : Type}

/-- A kernel that keeps no state and never faults: what it leaves in the buffer is a function of the
    buffer and the range. -/
def ofFunction (f : Buffer → (low high : Int32) → Buffer) : SortKernel m where
  sort low high := do set (f (← get) low high)

/-- The kernel, every use of it written down when it is over. -/
def noted (kernel : SortKernel m) (notes : SortUse → List τ) : SortKernel (StateT (List τ) m) where
  sort low high := ExceptT.mk fun buffer =>
    KernelAudit.noted (fun r => notes ⟨⟨buffer, low, high⟩, r.1.map fun _ => r.2⟩) ((kernel.sort low high).run.run buffer)

/-- The kernel, with a log of how it is called. -/
def logged (kernel : SortKernel m) : SortKernel (StateT (List SortCall) m) := kernel.noted fun use => [use.call]

/-- The kernel, with a log of how it is called and what it leaves. -/
def transcribed (kernel : SortKernel m) : SortKernel (StateT (List SortUse) m) := kernel.noted fun use => [use]

end SortKernel

/-! ### Uses that account for a fault -/

/-- Without a fault all uses have returned; a fault is that of the last use. -/
def Accounts (uses : List KernelUse) : Option Fault → Prop
  | none => ∀ use ∈ uses, use.fault? = none
  | some fault => ∃ earlier call, uses = earlier ++ [⟨call, some fault⟩] ∧ ∀ use ∈ earlier, use.fault? = none

theorem accounts_nil : Accounts [] none := fun _ h => nomatch h

theorem accounts_singleton (call : KernelCall) (fault? : Option Fault) : Accounts [⟨call, fault?⟩] fault? := by
  cases fault? with
  | none => exact List.forall_mem_singleton.mpr rfl
  | some fault => exact ⟨[], call, rfl, fun _ h => nomatch h⟩

theorem Accounts.append {uses uses' : List KernelUse} {fault? : Option Fault} (h : Accounts uses none)
    (h' : Accounts uses' fault?) : Accounts (uses ++ uses') fault? := by
  cases fault? with
  | none => exact List.forall_mem_append.mpr ⟨h, h'⟩
  | some fault =>
    obtain ⟨earlier, call, rfl, hearlier⟩ := h'
    exact ⟨uses ++ earlier, call, (List.append_assoc ..).symm, List.forall_mem_append.mpr ⟨h, hearlier⟩⟩

/-- The uses have a fault exactly if it is what they account for. -/
theorem Accounts.fault_iff {uses : List KernelUse} {fault? : Option Fault} (h : Accounts uses fault?) {fault : Fault} :
    (∃ use ∈ uses, use.fault? = some fault) ↔ fault? = some fault := by
  cases fault? with
  | none =>
    refine iff_of_false ?_ nofun
    rintro ⟨use, huse, hfault⟩
    rw [h use huse] at hfault
    cases hfault
  | some last =>
    obtain ⟨earlier, call, rfl, hearlier⟩ := h
    constructor
    · rintro ⟨use, huse, hfault⟩
      rcases List.mem_append.mp huse with hmem | hmem
      · rw [hearlier use hmem] at hfault
        cases hfault
      · obtain rfl := List.mem_singleton.mp hmem
        exact hfault
    · rintro ⟨⟩
      exact ⟨_, List.mem_append_right _ List.mem_cons_self, rfl⟩

/-! ### Computations that use kernels -/

section
variable {σ τ α β γ ε : Type} {notes : KernelUse → List τ}

/-- With notes about the uses of the kernels `x` does what `y` does, and the uses account for the fault that its
    value has. -/
def Mirrors (notes : KernelUse → List τ) (fault? : α → Option Fault) (x : StateT (List τ) (StateM σ) α)
    (y : StateM σ α) : Prop :=
  Notes notes (fun a uses => Accounts uses (fault? a)) x y

namespace Mirrors
variable {p : α → Option Fault} {q : β → Option Fault} {x : StateT (List τ) (StateM σ) α} {y : StateM σ α}

theorem lift (h : ∀ s, p (y.run s).1 = none) : Mirrors notes p (StateT.lift y) y :=
  Notes.lift fun s => (h s).symm ▸ accounts_nil

theorem of_pure {a : α} (h : p a = none) :
    Mirrors notes p (pure a : StateT (List τ) (StateM σ) α) (pure a : StateM σ α) :=
  lift (y := pure a) fun _ => h

/-- What comes behind a fault makes no more use of a kernel and keeps the fault. -/
theorem bind {f : α → StateT (List τ) (StateM σ) β} {g : α → StateM σ β} (h : Mirrors notes p x y)
    (hgoes : ∀ a, p a = none → Mirrors notes q (f a) (g a))
    (hstops : ∀ a fault, p a = some fault → f a = StateT.lift (g a) ∧ ∀ s, q ((g a).run s).1 = some fault) :
    Mirrors notes q (x >>= f) (y >>= g) := by
  refine Notes.bind h fun a uses haccounts => ?_
  rcases hfault : p a with _ | fault
  · rw [hfault] at haccounts
    exact Notes.mono (hgoes a hfault) fun b more hmore => haccounts.append hmore
  · obtain ⟨hlift, hkeeps⟩ := hstops a fault hfault
    rw [hlift]
    refine Notes.lift fun s => ?_
    rw [hkeeps, ← hfault, List.append_nil]
    exact haccounts

theorem map (h : Mirrors notes p x y) {f : α → β} (hf : ∀ a, q (f a) = p a) : Mirrors notes q (f <$> x) (f <$> y) :=
  Notes.map h fun a _ haccounts => (hf a).symm ▸ haccounts

end Mirrors

/-! ### Computations that may fail -/

/-- `Mirrors` for computations that fail with errors of which some are faults. -/
def Follows (notes : KernelUse → List τ) (fault? : ε → Option Fault) (x : ExceptT ε (StateT (List τ) (StateM σ)) α)
    (y : ExceptT ε (StateM σ) α) : Prop :=
  Mirrors notes (faultIn fault?) x.run y.run

namespace Follows
variable {fault? : ε → Option Fault} {x : ExceptT ε (StateT (List τ) (StateM σ)) α} {y : ExceptT ε (StateM σ) α}

theorem of_pure (a : α) : Follows notes fault? (pure a : ExceptT ε (StateT (List τ) (StateM σ)) α) (pure a) :=
  Mirrors.of_pure rfl

theorem bind {f : α → ExceptT ε (StateT (List τ) (StateM σ)) β} {g : α → ExceptT ε (StateM σ) β}
    (h : Follows notes fault? x y) (hgoes : ∀ a, Follows notes fault? (f a) (g a)) :
    Follows notes fault? (x >>= f) (y >>= g) :=
  Notes.bind_run h (fun _ _ haccounts => haccounts) fun a _ haccounts =>
    Notes.mono (hgoes a) fun _ _ hmore => Accounts.append haccounts hmore

theorem map (h : Follows notes fault? x y) (f : α → β) : Follows notes fault? (f <$> x) (f <$> y) := by
  rw [Follows, ExceptT.run_map, ExceptT.run_map]
  refine Mirrors.map h fun outcome => ?_
  cases outcome <;> rfl

/-- A computation of the machine with its outcome in its value, after which a fault in it is raised again. -/
theorem lift_bind {p : α → Option Fault} {x : StateT (List τ) (StateM σ) α} {y : StateM σ α}
    {f : α → ExceptT ε (StateT (List τ) (StateM σ)) β} {g : α → ExceptT ε (StateM σ) β} (h : Mirrors notes p x y)
    (hgoes : ∀ a, p a = none → Follows notes fault? (f a) (g a))
    (hstops : ∀ a fault, p a = some fault → ∃ e, fault? e = some fault ∧ f a = throw e ∧ g a = throw e) :
    Follows notes fault? (liftM x >>= f) (liftM y >>= g) := by
  have hlift : (liftM x : ExceptT ε (StateT (List τ) (StateM σ)) α).run = .ok <$> x := rfl
  have hlift' : (liftM y : ExceptT ε (StateM σ) α).run = .ok <$> y := rfl
  rw [Follows, ExceptT.run_bind, ExceptT.run_bind, hlift, hlift', bind_map_left, bind_map_left]
  refine Mirrors.bind h hgoes fun a fault hfault => ?_
  obtain ⟨e, he, hf, hg⟩ := hstops a fault hfault
  simp only [hf, hg]
  exact ⟨rfl, fun _ => he⟩

end Follows

end

end KernelAudit
