import KernelAudit.Check.Builtin
import KernelAudit.Proofs.Kernel.Record
import KernelAudit.Proofs.Sorting.Order
import KernelAudit.Proofs.Sorting.Trials

/-! The two sort checks against a kernel that computes a function. Each check on its own can be
    satisfied by a kernel that is wrong: one looks at the order only, the other at the values only.
    Seeded alike they give the kernel the same inputs, so together they accept exactly the kernels that
    arrange every input of the run. -/

namespace KernelAudit

/-- The last index of a buffer, which is -1 for an empty one. -/
def lastIndex (length : Nat) : Int32 := Int32.ofInt (length - 1)

theorem toInt_lastIndex {length : Nat} (h : length ≤ Sorting.Config.maxLength) :
    (lastIndex length).toInt = length - 1 := by
  have hmax : Sorting.Config.maxLength = 2147483647 := rfl
  exact Int32.toInt_ofInt_of_le (by omega) (by omega)

theorem ofNat_sub_one_eq_lastIndex (length : Nat) : Int32.ofNat length - 1 = lastIndex length := by
  rw [lastIndex, Int32.ofInt_sub, Int32.ofInt_eq_ofNat]
  rfl

/-! ### Kernels that compute a function -/

namespace SortKernel
variable {m : Type → Type} [Monad m] [LawfulMonad m]

theorem run_sortBuffer (kernel : SortKernel m) (b : Buffer) :
    (kernel.sortBuffer b).run = (do
      let (outcome, after) ← (kernel.sort 0 (lastIndex b.size)).run.run b
      pure (outcome.map fun _ => after)) := by
  have hlift : ∀ x : m (Except Fault Unit × Buffer), (liftM x : Faulty m _).run = .ok <$> x := fun _ => rfl
  simp only [sortBuffer, ofNat_sub_one_eq_lastIndex, ExceptT.run_bind, hlift, bind_map_left]
  refine bind_congr fun p => ?_
  rcases p with ⟨_ | _, after⟩ <;> rfl

theorem ofFunction_computes (f : Buffer → (low high : Int32) → Buffer) (length : Nat) :
    (ofFunction f : SortKernel m).Computes length (fun _ => pure ()) (fun b => f b 0 (lastIndex length)) := by
  intro b hb
  have hrun : ((ofFunction f : SortKernel m).sort 0 (lastIndex length)).run.run b =
      pure (.ok (), f b 0 (lastIndex length)) := by
    show (ExceptT.run (do
      let before ← ExceptT.lift get
      ExceptT.lift (set (f before 0 (lastIndex length))) : Faulty (StateT Buffer m) Unit)).run b = _
    simp
  apply ExceptT.ext
  rw [run_sortBuffer, hb, hrun]
  simp [Except.map]

theorem run_sortBuffer_noted {τ : Type} (kernel : SortKernel m) (notes : SortUse → List τ) (b : Buffer) :
    ((kernel.noted notes).sortBuffer b).run =
      KernelAudit.noted (fun outcome => notes ⟨⟨b, 0, lastIndex b.size⟩, outcome⟩) (kernel.sortBuffer b).run := by
  have hrun : ((kernel.noted notes).sort 0 (lastIndex b.size)).run.run b =
      KernelAudit.noted (fun r => notes ⟨⟨b, 0, lastIndex b.size⟩, r.1.map fun _ => r.2⟩)
        ((kernel.sort 0 (lastIndex b.size)).run.run b) := rfl
  rw [run_sortBuffer, run_sortBuffer, hrun]
  refine StateT.ext fun log => ?_
  simp [run_noted]

/-- Writing the calls down changes nothing about what a kernel computes. -/
theorem Computes.logged {kernel : SortKernel m} {length : Nat} {act : Buffer → m Unit} {f : Buffer → Buffer}
    (h : kernel.Computes length act f) :
    kernel.logged.Computes length (fun b => do StateT.lift (act b); note ⟨b, 0, lastIndex length⟩) f := by
  intro b hb
  apply ExceptT.ext
  rw [SortKernel.logged, run_sortBuffer_noted, h b hb, hb]
  refine StateT.ext fun log => ?_
  simp [run_noted, note]

end SortKernel

/-! ### The checks as measured runs -/

namespace Sorting

/-- A run between two readings of the clock, with the result that its duration gives. -/
def measured {m : Type → Type} [Monad m] (host : Host m) (act : m Unit) (result : UInt64 → CheckResult) :
    m (Except Fault CheckResult) := do
  let _ ← host.entropy
  let start ← host.clock
  act
  let stop ← host.clock
  pure (.ok (result (stop - start)))

section
variable {m : Type → Type} [Monad m] [LawfulMonad m] {host : Host m} {kernel : SortKernel m}
  {act : Buffer → m Unit} {f : Buffer → Buffer} {trials length : Nat} {seed : UInt64}

/-- The source of a seeded run, which no machine has a part in. -/
theorem generator_seeded (entropy : Key) :
    Config.generator ⟨trials, length, some seed⟩ entropy = Generator.ofSeed seed := rfl

theorem run_timed {α : Type} (act : m Unit) (a : α) :
    (Builtin.timed host (do ExceptT.lift act; pure a)).run = (do
      let start ← host.clock
      act
      let stop ← host.clock
      pure (.ok (a, stop - start))) := by
  have hlift : ∀ x : m (Except Fault α × UInt64), (liftM x : Faulty m _).run = .ok <$> x := fun _ => rfl
  simp only [Builtin.timed, Host.timed, ExceptT.run_bind, ExceptT.run_lift, ExceptT.run_pure, hlift,
    bind_map_left, bind_assoc, pure_bind]

theorem sortValidator_eq (h : kernel.Computes length act f) (ht : 1 ≤ trials) :
    (Builtin.sortValidator host kernel ⟨trials, length, some seed⟩).run =
      measured host
        (handOver act length (Generator.ofSeed seed) 0
          (trialsUpTo (disorder f length (Generator.ofSeed seed)) trials 0))
        (Builtin.sortResult ⟨trials, length, some seed⟩
          ⟨trialsUpTo (disorder f length (Generator.ofSeed seed)) trials 0,
            firstObjection (disorder f length (Generator.ofSeed seed)) trials 0⟩) := by
  have hne : trials ≠ 0 := by omega
  have hrun : runTrials kernel length trials 0 (Source.after (0 * length) (Generator.ofSeed seed)) = _ :=
    runTrials_eq h trials 0
  simp only [Nat.zero_mul, Source.after, Nat.zero_add] at hrun
  have hval : ∀ entropy, validateSeeded kernel ⟨trials, length, some seed⟩ entropy = (do
      ExceptT.lift (handOver act length (Generator.ofSeed seed) 0
        (trialsUpTo (disorder f length (Generator.ofSeed seed)) trials 0))
      pure ⟨trialsUpTo (disorder f length (Generator.ofSeed seed)) trials 0,
        firstObjection (disorder f length (Generator.ofSeed seed)) trials 0⟩) := fun entropy => by
    rw [validateSeeded, validate, generator_seeded, hrun]
    simp
  have hlift : (liftM host.entropy : Faulty m _).run = .ok <$> host.entropy := rfl
  simp only [Builtin.sortValidator, hne, if_false, hval, ExceptT.run_bind, ExceptT.run_pure, hlift, run_timed,
    measured, bind_map_left, bind_assoc, pure_bind]

theorem elementPreservation_eq (h : kernel.Computes length act f) (ht : 1 ≤ trials) :
    (Builtin.elementPreservation host kernel ⟨trials, length, some seed⟩).run =
      measured host
        (handOver act length (Generator.ofSeed seed) 0
          (trialsUpTo (loss f length (Generator.ofSeed seed)) trials 0))
        (Builtin.lossResult ⟨trials, length, some seed⟩
          (firstObjection (loss f length (Generator.ofSeed seed)) trials 0)) := by
  have hne : trials ≠ 0 := by omega
  have hrun : searchTrials kernel length trials 0 (Source.after (0 * length) (Generator.ofSeed seed)) = _ :=
    searchTrials_eq h trials 0
  simp only [Nat.zero_mul, Source.after, Nat.zero_add] at hrun
  have hlift : (liftM host.entropy : Faulty m _).run = .ok <$> host.entropy := rfl
  simp only [Builtin.elementPreservation, hne, if_false, findLoss, generator_seeded, hrun, ExceptT.run_bind,
    ExceptT.run_pure, hlift, run_timed, measured, bind_map_left, bind_assoc, pure_bind]

theorem sortResult_status {config : Config} {outcome : Outcome} {durationMs : UInt64} :
    (Builtin.sortResult config outcome durationMs).status = .pass ↔ outcome.violation = none := by
  unfold Builtin.sortResult
  split <;> simp [CheckResult.status, *]

theorem lossResult_status {config : Config} {found : Option Loss} {durationMs : UInt64} :
    (Builtin.lossResult config found durationMs).status = .pass ↔ found = none := by
  unfold Builtin.lossResult
  split <;> simp [CheckResult.status]

end

/-! ### What a machine sees of a check -/

section
variable {σ : Type}

/-- The check ends with a pass when it begins on a machine in the given state. -/
def Passes (check : Faulty (StateM σ) CheckResult) (s : σ) : Prop :=
  ∃ result, (check.run.run s).1 = .ok result ∧ result.status = .pass

/-- The calls of the sort kernel during a check. -/
def callsOf (check : Faulty (StateT (List SortCall) (StateM σ)) CheckResult) (s : σ) : List SortCall :=
  ((check.run.run []).run s).1.2

theorem passes_iff {check : Faulty (StateM σ) CheckResult} {host : Host (StateM σ)} {act : StateM σ Unit}
    {result : UInt64 → CheckResult} {s : σ} {good : Prop} (h : check.run = measured host act result)
    (hgood : ∀ durationMs, (result durationMs).status = .pass ↔ good) : Passes check s ↔ good := by
  have hrun : ∃ d, (check.run.run s).1 = .ok (result d) := h ▸ ⟨_, rfl⟩
  obtain ⟨d, hd⟩ := hrun
  rw [Passes, hd]
  constructor
  · rintro ⟨_, ⟨⟩, hpass⟩
    exact (hgood d).mp hpass
  · intro hg
    exact ⟨_, rfl, (hgood d).mpr hg⟩

theorem callsOf_eq {check : Faulty (StateT (List SortCall) (StateM σ)) CheckResult} {host : Host (StateM σ)}
    {act : StateT (List SortCall) (StateM σ) Unit} {result : UInt64 → CheckResult} {s : σ}
    {calls : List SortCall} (h : check.run = measured host.logged act result)
    (hact : ∀ log, act.run log = pure ((), log ++ calls)) : callsOf check s = calls := by
  simp only [callsOf, h, measured, Host.logged, StateT.run_bind, StateT.run_lift, hact, bind_assoc, pure_bind]
  rfl

end

/-! ### Both checks together -/

section
variable {ρ : Type} [Source ρ] {f : Buffer → Buffer} {length : Nat} {source : ρ}

theorem disorder_eq_none_iff {t : Nat} :
    disorder f length source t = none ↔ (f (input length source t)).toList.Pairwise (· ≤ ·) := by
  rw [disorder, Option.map_eq_none_iff, firstDescent_eq_none_iff]

theorem loss_eq_none_iff {t : Nat} :
    loss f length source t = none ↔ (f (input length source t)).toList.Perm (input length source t).toList := by
  simp only [loss, ite_eq_left_iff, reduceCtorEq, imp_false, not_not, ordered_eq_iff_perm]
  exact List.perm_comm

theorem arranges_iff_no_objection {t : Nat} :
    Arranges (input length source t) (f (input length source t)) ↔
      disorder f length source t = none ∧ loss f length source t = none := by
  rw [disorder_eq_none_iff, loss_eq_none_iff, Arranges]

/-- `calls` are those of the first trials, up to the first one that is not `good`. -/
def CallsUntil (calls : List SortCall) (call : Nat → SortCall) (trials : Nat) (good : Nat → Prop) : Prop :=
  ∃ count, calls = (List.range count).map call ∧ ∀ t, t < count ↔ t < trials ∧ ∀ u < t, good u

theorem callsUntil_of_judge {β : Type} {judge : Nat → Option β} {good : Nat → Prop} {call : Nat → SortCall}
    {calls : List SortCall} {trials : Nat} (hcalls : calls = (List.range (trialsUpTo judge trials 0)).map call)
    (hgood : ∀ t, judge t = none ↔ good t) : CallsUntil calls call trials good := by
  refine ⟨trialsUpTo judge trials 0, hcalls, fun t => ?_⟩
  have := @lt_trialsUpTo_iff _ judge trials 0 t (Nat.zero_le t)
  simpa [hgood] using this

theorem run_handOver_logged {m : Type → Type} [Monad m] [LawfulMonad m] {call : Buffer → SortCall} {count : Nat}
    (log : List SortCall) :
    (handOver (fun b => do StateT.lift (pure ()); note (call b) : Buffer → StateT (List SortCall) m Unit)
      length source 0 count).run log =
    pure ((), log ++ (List.range count).map fun t => call (input length source t)) := by
  have hact : (fun b => do StateT.lift (pure ()); note (call b) : Buffer → StateT (List SortCall) m Unit) =
      fun b => note (call b) := by
    funext b
    exact StateT.ext fun log => by simp [note]
  have hmap : (forM ((List.range' 0 count).map (input length source)) fun b => note (call b) :
      StateT (List SortCall) m Unit) =
        forM (((List.range' 0 count).map (input length source)).map call) note := (List.forM_map ..).symm
  rw [handOver, hact, hmap, run_forM_note, List.map_map, ← List.range_eq_range']
  rfl

end

/-- Two seeded sort checks with trials to run both pass exactly if the kernel arranges every input of
    the run, whatever machine they run on. Trial by trial both give the kernel the same input, a block
    of the seed's values, and the whole range of it; each stops after the first trial it objects to. -/
theorem passes_both_iff_arranges {σ : Type} (host : Host (StateM σ))
    (f : Buffer → (low high : Int32) → Buffer) (seed : UInt64) (trials length : Nat) (ht : 1 ≤ trials)
    (hl : length ≤ Config.maxLength) (s₁ s₂ : σ) :
    let config : Config := ⟨trials, length, some seed⟩
    let inputOf := input length (Generator.ofSeed seed)
    let outputOf := fun t => f (inputOf t) 0 (lastIndex length)
    let call := fun t => (⟨inputOf t, 0, lastIndex length⟩ : SortCall)
    (lastIndex length).toInt = length - 1 ∧
    (Passes (Builtin.sortValidator host (.ofFunction f) config) s₁ ∧
        Passes (Builtin.elementPreservation host (.ofFunction f) config) s₂ ↔
      ∀ t < trials, Arranges (inputOf t) (outputOf t)) ∧
    CallsUntil (callsOf (Builtin.sortValidator host.logged (SortKernel.ofFunction f).logged config) s₁) call trials
      (fun t => (outputOf t).toList.Pairwise (· ≤ ·)) ∧
    CallsUntil (callsOf (Builtin.elementPreservation host.logged (SortKernel.ofFunction f).logged config) s₂) call trials
      (fun t => (outputOf t).toList.Perm (inputOf t).toList) := by
  intro config inputOf outputOf call
  have hplain := SortKernel.ofFunction_computes (m := StateM σ) f length
  have hlogged := (SortKernel.ofFunction_computes (m := StateM σ) f length).logged
  refine ⟨toInt_lastIndex hl, ?_, ?_, ?_⟩
  · rw [passes_iff (sortValidator_eq hplain ht) (fun _ => sortResult_status),
      passes_iff (elementPreservation_eq hplain ht) (fun _ => lossResult_status),
      firstObjection_eq_none_iff, firstObjection_eq_none_iff, ← forall₂_and]
    exact forall₂_congr fun _ _ => arranges_iff_no_objection.symm
  · exact callsUntil_of_judge (callsOf_eq (sortValidator_eq hlogged ht) run_handOver_logged)
      fun _ => disorder_eq_none_iff
  · exact callsUntil_of_judge (callsOf_eq (elementPreservation_eq hlogged ht) run_handOver_logged)
      fun _ => loss_eq_none_iff

/-- A kernel that sorts passes both checks. -/
theorem passes_both_of_sorting : 1 ≤ 10 ∧ 15 ≤ Config.maxLength ∧
    Passes (Builtin.sortValidator (.idle : Host (StateM Unit))
      (.ofFunction fun b _ _ => (ordered b.toList).toArray) ⟨10, 15, some 7⟩) () ∧
    Passes (Builtin.elementPreservation (.idle : Host (StateM Unit))
      (.ofFunction fun b _ _ => (ordered b.toList).toArray) ⟨10, 15, some 7⟩) () :=
  ⟨by decide, by decide,
    (passes_both_iff_arranges .idle (fun b _ _ => (ordered b.toList).toArray) 7 10 15 (by decide) (by decide)
      () ()).2.1.mpr fun _ _ => ⟨ordered_pairwise _, ordered_perm _⟩⟩

end Sorting

end KernelAudit
