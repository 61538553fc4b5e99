import KernelAudit.Proofs.Check.Conforming
import Mathlib.Order.Bounds.Defs

/-! The numeric validator against the sweeps, on kernels that compute functions. Both look at the same
    comparisons, one for each index: the validator ends at the first that failed in any respect, a sweep
    keeps those that failed in the respect of its kernel. As the indices increase, the comparison that
    ends a run stands at the least index that any sweep reports, and no other comparison has its index. -/

namespace KernelAudit.Numeric

/-! ### Comparisons and deviations -/

namespace Comparison

def fibDeviation (c : Comparison) : Deviation Int32 := ⟨c.index, c.fib, c.expectedFib⟩
def sqrDeviation (c : Comparison) : Deviation Single := ⟨c.index, c.sqr, c.expectedSqr⟩
def ringDeviation (c : Comparison) : Deviation Single := ⟨c.index, c.ring, c.expectedRing⟩

theorem failed_iff {c : Comparison} :
    c.failed = true ↔ c.fibMismatch = true ∨ c.sqrMismatch = true ∨ c.ringMismatch = true := by
  rw [failed, Bool.or_eq_true, Bool.or_eq_true, or_assoc]

end Comparison

section
variable (fib : Int32 → Int32) (sqr ring : Single → Single)

/-- The comparisons of a whole run, in the order of their indices. -/
def comparisons : List Comparison := expectations.map (comparison fib sqr ring)

theorem pairwise_index_comparisons : ((comparisons fib sqr ring).map Comparison.index).Pairwise (· < ·) :=
  List.pairwise_lt_range (n := 10)

/-- A sweep keeps the comparisons that failed in its respect. -/
theorem deviations_eq {α : Type} {flag : Comparison → Bool} {deviation : Comparison → Deviation α}
    {p : Nat × Int32 → Deviation α} {differs : Deviation α → Bool}
    (hp : ∀ q, deviation (comparison fib sqr ring q) = p q)
    (hflag : ∀ c, differs (deviation c) = flag c) :
    (expectations.map p).filter differs = ((comparisons fib sqr ring).filter flag).map deviation := by
  have hmap : expectations.map p = (comparisons fib sqr ring).map deviation := by
    rw [comparisons, List.map_map]
    exact List.map_congr_left fun q _ => (hp q).symm
  have hfun : differs ∘ deviation = flag := funext hflag
  rw [hmap, List.filter_map, hfun]

theorem fibDeviations_eq :
    fibDeviations fib = ((comparisons fib sqr ring).filter (·.fibMismatch)).map (·.fibDeviation) :=
  deviations_eq fib sqr ring (fun _ => rfl) fun _ => rfl

theorem singleDeviations_sqr_eq : singleDeviations sqr localSqr =
    ((comparisons fib sqr ring).filter (·.sqrMismatch)).map (·.sqrDeviation) :=
  deviations_eq fib sqr ring (fun _ => rfl) fun _ => rfl

theorem singleDeviations_ring_eq : singleDeviations ring localRing =
    ((comparisons fib sqr ring).filter (·.ringMismatch)).map (·.ringDeviation) :=
  deviations_eq fib sqr ring (fun _ => rfl) fun _ => rfl

end

theorem mismatch_outcomeOf (cs : List Comparison) : (outcomeOf cs).mismatch = cs.find? (·.failed) := by
  induction cs with
  | nil => rfl
  | cons c rest ih =>
    rw [outcomeOf, List.find?_cons]
    cases c.failed with
    | true => rfl
    | false => exact ih

/-! ### The first comparison that failed -/

/-- Of the deviations exactly those are at the index of `d` that are `d` itself, if the flag is set, and
    none otherwise. -/
def ShownBy {α : Type} (d : Deviation α) (flag : Bool) (deviations : List (Deviation α)) : Prop :=
  ∀ x, x ∈ deviations ∧ x.index = d.index ↔ flag = true ∧ x = d

section
variable {cs : List Comparison} {c : Comparison} (hindex : (cs.map Comparison.index).Pairwise (· < ·))
include hindex

theorem shownBy_filter {α : Type} {flag : Comparison → Bool} {deviation : Comparison → Deviation α}
    (hdeviation : ∀ c, (deviation c).index = c.index) (hc : c ∈ cs) :
    ShownBy (deviation c) (flag c) ((cs.filter flag).map deviation) := by
  have hnodup : (cs.map Comparison.index).Nodup := hindex.imp Nat.ne_of_lt
  intro x
  constructor
  · rintro ⟨hx, hat⟩
    obtain ⟨other, hother, rfl⟩ := List.mem_map.mp hx
    obtain ⟨hmem, hflag⟩ := List.mem_filter.mp hother
    rw [hdeviation, hdeviation] at hat
    obtain rfl := List.inj_on_of_nodup_map hnodup hmem hc hat
    exact ⟨hflag, rfl⟩
  · rintro ⟨hflag, rfl⟩
    exact ⟨List.mem_map_of_mem (List.mem_filter.mpr ⟨hc, hflag⟩), rfl⟩

/-- Nothing that failed stands before the first comparison that did. -/
theorem index_le_of_find? (hfind : cs.find? (·.failed) = some c) {other : Comparison} (hother : other ∈ cs)
    (hfailed : other.failed = true) : c.index ≤ other.index := by
  obtain ⟨-, before, rest, rfl, hbefore⟩ := List.find?_eq_some_iff_append.mp hfind
  rcases List.mem_append.mp hother with hmem | hmem
  · have := hbefore other hmem
    rw [hfailed] at this
    cases this
  · rcases List.mem_cons.mp hmem with rfl | hmem
    · exact Nat.le_refl _
    · rw [List.map_append, List.map_cons, List.pairwise_append, List.pairwise_cons] at hindex
      exact Nat.le_of_lt (hindex.2.1.1 _ (List.mem_map_of_mem hmem))

end

/-! ### What the sweeps report together -/

section
variable {fib : Int32 → Int32} {sqr ring : Single → Single}

theorem mem_index_filter {α : Type} {cs : List Comparison} {flag : Comparison → Bool}
    {deviation : Comparison → Deviation α} (hdeviation : ∀ c, (deviation c).index = c.index) {i : Nat} :
    i ∈ ((cs.filter flag).map deviation).map Deviation.index ↔ ∃ c ∈ cs, flag c = true ∧ c.index = i := by
  have hindex : Deviation.index ∘ deviation = Comparison.index := funext hdeviation
  rw [List.map_map, hindex, List.mem_map]
  simp only [List.mem_filter, and_assoc]

/-- An index is reported by some sweep exactly if the comparison there failed. -/
theorem reported_iff {i : Nat} :
    (i ∈ (fibDeviations fib).map Deviation.index ∨ i ∈ (singleDeviations sqr localSqr).map Deviation.index ∨
        i ∈ (singleDeviations ring localRing).map Deviation.index) ↔
      ∃ c ∈ comparisons fib sqr ring, c.failed = true ∧ c.index = i := by
  rw [fibDeviations_eq fib sqr ring, singleDeviations_sqr_eq fib sqr ring, singleDeviations_ring_eq fib sqr ring,
    mem_index_filter fun _ => rfl, mem_index_filter fun _ => rfl, mem_index_filter fun _ => rfl]
  simp only [Comparison.failed_iff, or_and_right, and_or_left, exists_or]

theorem mismatch_eq_none_iff :
    (outcomeOf (comparisons fib sqr ring)).mismatch = none ↔
      fibDeviations fib = [] ∧ singleDeviations sqr localSqr = [] ∧ singleDeviations ring localRing = [] := by
  rw [fibDeviations_eq fib sqr ring, singleDeviations_sqr_eq fib sqr ring, singleDeviations_ring_eq fib sqr ring,
    mismatch_outcomeOf, List.find?_eq_none]
  simp only [List.map_eq_nil_iff, List.filter_eq_nil_iff, Comparison.failed_iff, not_or, forall₂_and]

theorem isLeast_of_mismatch {c : Comparison} (h : (outcomeOf (comparisons fib sqr ring)).mismatch = some c) :
    IsLeast {i | ∃ c ∈ comparisons fib sqr ring, c.failed = true ∧ c.index = i} c.index := by
  rw [mismatch_outcomeOf] at h
  refine ⟨⟨c, List.mem_of_find?_eq_some h, List.find?_some (p := Comparison.failed) h, rfl⟩, ?_⟩
  rintro _ ⟨other, hother, hfailed, rfl⟩
  exact index_le_of_find? (pairwise_index_comparisons fib sqr ring) h hother hfailed

end

/-! ### The checks of a kernel -/

section
variable {σ : Type} (host : Host (StateM σ)) (fib : Int32 → Int32) (sqr ring : Single → Single)

/-- The four checks of kernels that compute functions always end alike: the validator passes exactly if
    all three sweeps do. If it fails, it does so at the least index that any sweep reports; and of the
    comparison there each flag is set exactly if the sweep of that kernel reports the index too, which it
    then does once, with the values of the comparison. -/
theorem validator_agrees_with_sweeps :
    let kernel : NumericKernel (StateM σ) := .ofFunctions fib sqr ring
    let outcome := outcomeOf (comparisons fib sqr ring)
    let fibs := fibDeviations fib
    let sqrs := singleDeviations sqr localSqr
    let rings := singleDeviations ring localRing
    validate kernel Builtin.discard = pure outcome ∧
    sweepFib kernel = pure fibs ∧ sweepSqr kernel = pure sqrs ∧ sweepRing kernel = pure rings ∧
    List.Forall₂ (fun check p => check.id = p.1 ∧ check.Answers (.ofPassed p.2)) (Builtin.numericChecks host kernel)
      [("NUM-001", outcome.mismatch.isNone), ("NUM-002", fibs.isEmpty), ("NUM-003", sqrs.isEmpty),
        ("NUM-004", rings.isEmpty)] ∧
    (outcome.mismatch = none ↔ fibs = [] ∧ sqrs = [] ∧ rings = []) ∧
    ∀ c, outcome.mismatch = some c →
      IsLeast {i | i ∈ fibs.map Deviation.index ∨ i ∈ sqrs.map Deviation.index ∨ i ∈ rings.map Deviation.index}
        c.index ∧
      ShownBy ⟨c.index, c.fib, c.expectedFib⟩ c.fibMismatch fibs ∧
      ShownBy ⟨c.index, c.sqr, c.expectedSqr⟩ c.sqrMismatch sqrs ∧
      ShownBy ⟨c.index, c.ring, c.expectedRing⟩ c.ringMismatch rings := by
  intro kernel outcome fibs sqrs rings
  have hvalidate : validate kernel Builtin.discard = pure outcome := validateAll_ofFunctions ..
  have hfib : sweepFib kernel = pure fibs := sweepFib_ofFunctions ..
  have hsqr : sweepSqr kernel = pure sqrs := sweepSingle_pure ..
  have hring : sweepRing kernel = pure rings := sweepSingle_pure ..
  have hfind : outcome.mismatch = (comparisons fib sqr ring).find? (·.failed) := mismatch_outcomeOf _
  refine ⟨hvalidate, hfib, hsqr, hring, ?_, ?_, ?_⟩
  · exact .cons ⟨rfl, Builtin.answers_check (Builtin.ends_numericValidator hvalidate)⟩
      (.cons ⟨rfl, Builtin.answers_check (Builtin.ends_sweep hfib)⟩
      (.cons ⟨rfl, Builtin.answers_check (Builtin.ends_sweep hsqr)⟩
      (.cons ⟨rfl, Builtin.answers_check (Builtin.ends_sweep hring)⟩ .nil)))
  · exact mismatch_eq_none_iff
  · intro c hc
    have hmem : c ∈ comparisons fib sqr ring := List.mem_of_find?_eq_some (hfind.symm.trans hc)
    have hindex := pairwise_index_comparisons fib sqr ring
    refine ⟨?_, ?_, ?_, ?_⟩
    · simp only [fibs, sqrs, rings, @reported_iff fib sqr ring]
      exact isLeast_of_mismatch hc
    · rw [show fibs = _ from fibDeviations_eq fib sqr ring]
      exact shownBy_filter hindex (fun _ => rfl) hmem
    · rw [show sqrs = _ from singleDeviations_sqr_eq fib sqr ring]
      exact shownBy_filter hindex (fun _ => rfl) hmem
    · rw [show rings = _ from singleDeviations_ring_eq fib sqr ring]
      exact shownBy_filter hindex (fun _ => rfl) hmem

end

/-- Kernels of which one answers with no number at the index 4 and another is wrong from the index 6 on. -/
def sampleSqr (x : Single) : Single := if x = .ofNat 4 then .nan else x * x
def sampleFib (index : Int32) : Int32 := if 6 ≤ index then 0 else Reference.fib index

/-- The run ends at the index 4, where `sqr` alone is reported. -/
theorem validator_agrees_with_sweeps_sample :
    ∃ c, (outcomeOf (comparisons sampleFib sampleSqr Reference.ring)).mismatch = some c ∧ c.index = 4 ∧
      c.sqrMismatch = true ∧ c.sqrDeviation ∈ singleDeviations sampleSqr localSqr ∧
      ∀ d ∈ fibDeviations sampleFib, 4 ≤ d.index := by
  have hmismatch : ((outcomeOf (comparisons sampleFib sampleSqr Reference.ring)).mismatch.map fun c =>
      (c.index, c.sqrMismatch)) = some (4, true) := by decide +kernel
  obtain ⟨c, hc, hat⟩ := Option.map_eq_some_iff.mp hmismatch
  obtain ⟨hindex, hsqr⟩ := Prod.mk.inj hat
  obtain ⟨-, -, -, -, -, -, hrun⟩ :=
    validator_agrees_with_sweeps (.idle : Host (StateM Unit)) sampleFib sampleSqr Reference.ring
  obtain ⟨hleast, -, hshown, -⟩ := hrun c hc
  refine ⟨c, hc, hindex, hsqr, ((hshown c.sqrDeviation).mpr ⟨hsqr, rfl⟩).1, fun d hd => ?_⟩
  exact hindex ▸ hleast.2 (Or.inl (List.mem_map_of_mem hd))

end KernelAudit.Numeric
