import KernelAudit.Check.Run
import KernelAudit.Proofs.Numeric.Functions
import KernelAudit.Proofs.Sorting.Loop

/-! Two computations side by side, each on a machine of its own. A relation `S` says when two states are alike
    as far as it matters; computations that are `Coupled` keep it and end with values that are related. This is
    kept by every way in which computations are put together, so if the kernels of two validators are coupled,
    the validators are: what the relation leaves out cannot make a difference to either. -/

namespace KernelAudit

variable {σ σ' α α' β β' ε : Type} {S : σ → σ' → Prop}

/-- From states that `S` relates the two end in such states again, with values that `rel` relates. -/
structure Coupled (S : σ → σ' → Prop) (rel : α → α' → Prop) (x : StateM σ α) (y : StateM σ' α') : Prop where
  run : ∀ s s', S s s' → rel (x.run s).1 (y.run s').1 ∧ S (x.run s).2 (y.run s').2

namespace Coupled
variable {rel : α → α' → Prop} {rel' : β → β' → Prop} {x : StateM σ α} {y : StateM σ' α'}

theorem of_pure {a : α} {a' : α'} (h : rel a a') : Coupled S rel (pure a : StateM σ α) (pure a' : StateM σ' α') :=
  ⟨fun _ _ hs => ⟨h, hs⟩⟩

theorem bind {f : α → StateM σ β} {g : α' → StateM σ' β'} (h : Coupled S rel x y)
    (hnext : ∀ a a', rel a a' → Coupled S rel' (f a) (g a')) : Coupled S rel' (x >>= f) (y >>= g) := by
  refine ⟨fun s s' hs => ?_⟩
  obtain ⟨hvalue, hstate⟩ := h.run s s' hs
  exact (hnext _ _ hvalue).run _ _ hstate

theorem map {f : α → β} {g : α' → β'} (h : Coupled S rel x y) (hf : ∀ a a', rel a a' → rel' (f a) (g a')) :
    Coupled S rel' (f <$> x) (g <$> y) := by
  refine ⟨fun s s' hs => ?_⟩
  obtain ⟨hvalue, hstate⟩ := h.run s s' hs
  exact ⟨hf _ _ hvalue, hstate⟩

end Coupled

/-! ### Computations that may fail -/

/-- Both have values, which are related, or both have failed with one error. -/
inductive EndAlike (rel : α → α' → Prop) : Except ε α → Except ε α' → Prop where
  | ok {a : α} {a' : α'} (h : rel a a') : EndAlike rel (.ok a) (.ok a')
  | error (e : ε) : EndAlike rel (.error e) (.error e)

/-- `Coupled` for computations that may fail. -/
def Matched (S : σ → σ' → Prop) (rel : α → α' → Prop) (x : ExceptT ε (StateM σ) α) (y : ExceptT ε (StateM σ') α') :
    Prop :=
  Coupled S (EndAlike rel) x.run y.run

namespace Matched
variable {rel : α → α' → Prop} {rel' : β → β' → Prop} {x : ExceptT ε (StateM σ) α} {y : ExceptT ε (StateM σ') α'}

theorem of_pure {a : α} {a' : α'} (h : rel a a') :
    Matched S rel (pure a : ExceptT ε (StateM σ) α) (pure a' : ExceptT ε (StateM σ') α') :=
  Coupled.of_pure (.ok h)

theorem of_throw (e : ε) : Matched S rel (throw e : ExceptT ε (StateM σ) α) (throw e : ExceptT ε (StateM σ') α') :=
  Coupled.of_pure (.error e)

theorem bind {f : α → ExceptT ε (StateM σ) β} {g : α' → ExceptT ε (StateM σ') β'} (h : Matched S rel x y)
    (hnext : ∀ a a', rel a a' → Matched S rel' (f a) (g a')) : Matched S rel' (x >>= f) (y >>= g) := by
  rw [Matched, ExceptT.run_bind, ExceptT.run_bind]
  refine Coupled.bind h fun outcome outcome' houtcome => ?_
  cases houtcome with
  | ok hvalue => exact hnext _ _ hvalue
  | error e => exact of_throw e

theorem map {f : α → β} {g : α' → β'} (h : Matched S rel x y) (hf : ∀ a a', rel a a' → rel' (f a) (g a')) :
    Matched S rel' (f <$> x) (g <$> y) := by
  rw [Matched, ExceptT.run_map, ExceptT.run_map]
  refine Coupled.map h fun outcome outcome' houtcome => ?_
  cases houtcome with
  | ok hvalue => exact .ok (hf _ _ hvalue)
  | error e => exact .error e

theorem adapt {ε' : Type} (h : Matched S rel x y) (f : ε → ε') :
    Matched S rel (ExceptT.adapt f x) (ExceptT.adapt f y) := by
  refine Coupled.map h fun outcome outcome' houtcome => ?_
  cases houtcome with
  | ok hvalue => exact .ok hvalue
  | error e => exact .error (f e)

theorem mapM {γ : Type} {f : γ → ExceptT ε (StateM σ) α} {g : γ → ExceptT ε (StateM σ') α}
    (h : ∀ c, Matched S Eq (f c) (g c)) (cs : List γ) : Matched S Eq (cs.mapM f) (cs.mapM g) := by
  induction cs with
  | nil => exact of_pure rfl
  | cons c rest ih =>
    rw [List.mapM_cons, List.mapM_cons]
    refine (h c).bind ?_
    rintro a _ rfl
    refine ih.bind ?_
    rintro as _ rfl
    exact of_pure rfl

theorem lift_bind {x : StateM σ α} {y : StateM σ' α'} {f : α → ExceptT ε (StateM σ) β}
    {g : α' → ExceptT ε (StateM σ') β'} (h : Coupled S rel x y)
    (hnext : ∀ a a', rel a a' → Matched S rel' (f a) (g a')) : Matched S rel' (liftM x >>= f) (liftM y >>= g) := by
  have hlift : (liftM x : ExceptT ε (StateM σ) α).run = .ok <$> x := rfl
  have hlift' : (liftM y : ExceptT ε (StateM σ') α').run = .ok <$> y := rfl
  rw [Matched, ExceptT.run_bind, ExceptT.run_bind, hlift, hlift', bind_map_left, bind_map_left]
  exact Coupled.bind h hnext

end Matched

/-! ### Kernels and hosts -/

structure NumericKernel.Coupled (S : σ → σ' → Prop) (kernel : NumericKernel (StateM σ))
    (kernel' : NumericKernel (StateM σ')) : Prop where
  fib : ∀ index, Matched S Eq (kernel.fib index) (kernel'.fib index)
  sqr : ∀ x, Matched S Eq (kernel.sqr x) (kernel'.sqr x)
  ring : ∀ x, Matched S Eq (kernel.ring x) (kernel'.ring x)

/-- The two kernels leave the same in a buffer, and return or fault alike. -/
structure SortKernel.Coupled (S : σ → σ' → Prop) (kernel : SortKernel (StateM σ))
    (kernel' : SortKernel (StateM σ')) : Prop where
  sort : ∀ low high buffer, KernelAudit.Coupled S Eq ((kernel.sort low high).run.run buffer)
    ((kernel'.sort low high).run.run buffer)

/-- The two hosts keep the relation; what their clocks show need not be related, what they draw is by `drawn`. -/
structure Host.Coupled (S : σ → σ' → Prop) (drawn : Key → Key → Prop) (host : Host (StateM σ))
    (host' : Host (StateM σ')) : Prop where
  clock : KernelAudit.Coupled S (fun _ _ => True) host.clock host'.clock
  entropy : KernelAudit.Coupled S drawn host.entropy host'.entropy

theorem Coupled.timed {drawn : Key → Key → Prop} {host : Host (StateM σ)} {host' : Host (StateM σ')}
    (hhost : host.Coupled S drawn host') {rel : α → α' → Prop} {x : StateM σ α} {y : StateM σ' α'}
    (h : Coupled S rel x y) : Coupled S (fun p p' => rel p.1 p'.1) (host.timed x) (host'.timed y) :=
  hhost.clock.bind fun _ _ _ => h.bind fun _ _ hvalue => hhost.clock.bind fun _ _ _ => of_pure hvalue

/-! ### Validators -/

namespace Numeric
variable {kernel : NumericKernel (StateM σ)} {kernel' : NumericKernel (StateM σ')} (h : kernel.Coupled S kernel')
include h

theorem matched_compareAt (index : Nat) (expectedFib : Int32) :
    Matched S Eq (compareAt kernel index expectedFib) (compareAt kernel' index expectedFib) := by
  refine (h.fib _).bind ?_
  rintro fib _ rfl
  refine (h.sqr _).bind ?_
  rintro sqr _ rfl
  refine (h.ring _).bind ?_
  rintro ring _ rfl
  exact Matched.of_pure rfl

theorem matched_validateAll (expected : List (Nat × Int32)) :
    Matched S Eq (validateAll kernel Builtin.discard expected) (validateAll kernel' Builtin.discard expected) := by
  induction expected with
  | nil => exact Matched.of_pure rfl
  | cons p rest ih =>
    simp only [validateAll, write_discard, adapt_pure, pure_bind]
    refine ((h.fib _).adapt Interruption.fault).bind ?_
    rintro value _ rfl
    refine ((matched_compareAt h p.1 p.2).adapt Interruption.fault).bind ?_
    rintro comparison _ rfl
    split
    · exact Matched.of_pure rfl
    · refine ih.bind ?_
      rintro outcome _ rfl
      exact Matched.of_pure rfl

theorem matched_sweepFib : Matched S Eq (sweepFib kernel) (sweepFib kernel') := by
  refine (Matched.mapM (fun p => ?_) expectations).bind ?_
  · refine (h.fib _).bind ?_
    rintro actual _ rfl
    exact Matched.of_pure rfl
  · rintro all _ rfl
    exact Matched.of_pure rfl

omit h in
theorem matched_sweepSingle {kernel : Single → Faulty (StateM σ) Single} {kernel' : Single → Faulty (StateM σ') Single}
    (h : ∀ x, Matched S Eq (kernel x) (kernel' x)) (expected : Single → Single) :
    Matched S Eq (sweepSingle kernel expected) (sweepSingle kernel' expected) := by
  refine (Matched.mapM (fun p => ?_) expectations).bind ?_
  · refine (h _).bind ?_
    rintro actual _ rfl
    exact Matched.of_pure rfl
  · rintro all _ rfl
    exact Matched.of_pure rfl

end Numeric

namespace Sorting
variable {ρ : Type} [Source ρ] {kernel : SortKernel (StateM σ)} {kernel' : SortKernel (StateM σ')}
  (h : kernel.Coupled S kernel')
include h

theorem matched_sortBuffer (buffer : Buffer) : Matched S Eq (kernel.sortBuffer buffer) (kernel'.sortBuffer buffer) := by
  refine Matched.lift_bind (h.sort _ _ buffer) ?_
  rintro ⟨outcome, after⟩ _ rfl
  cases outcome with
  | ok _ => exact Matched.of_pure rfl
  | error fault => exact Matched.of_throw fault

theorem matched_trialsUntil {β : Type} (judge : (trial : Nat) → (input output : Buffer) → Option β)
    (length remaining trial : Nat) (source : ρ) :
    Matched S Eq (trialsUntil judge kernel length remaining trial source)
      (trialsUntil judge kernel' length remaining trial source) := by
  -- The inputs come from the source, which both runs carry along, so the kernels get the same buffer in each trial.
  induction remaining generalizing trial source with
  | zero => exact Matched.of_pure rfl
  | succ remaining ih =>
    simp only [trialsUntil]
    refine (matched_sortBuffer h _).bind ?_
    rintro output _ rfl
    cases judge trial (fill length source).1 output with
    | some objection => exact Matched.of_pure rfl
    | none => exact ih ..

theorem matched_runTrials (length remaining trial : Nat) (source : ρ) :
    Matched S Eq (runTrials kernel length remaining trial source)
      (runTrials kernel' length remaining trial source) := by
  rw [runTrials_eq_trialsUntil, runTrials_eq_trialsUntil]
  exact (matched_trialsUntil h ..).map fun _ _ heq => heq ▸ rfl

theorem matched_searchTrials (length remaining trial : Nat) (source : ρ) :
    Matched S Eq (searchTrials kernel length remaining trial source)
      (searchTrials kernel' length remaining trial source) := by
  rw [searchTrials_eq_trialsUntil, searchTrials_eq_trialsUntil]
  exact (matched_trialsUntil h ..).map fun _ _ heq => heq ▸ rfl

end Sorting

end KernelAudit
