import KernelAudit.Kernel.Reference
import KernelAudit.Proofs.Binary.Arithmetic
import KernelAudit.Validator.Numeric

/-! The built-in `ring` is written out, the reference value goes through rounds that begin with zero. The two
    differ in the first step, which adds the argument to zero before it is squared: that changes the sign of
    the negative zero, and the square has none. From there on they do the same. Neither depends on which bit
    pattern stands for what is not a number, so both are said of every run whose operations answer with a
    result that is allowed. -/

namespace KernelAudit

open Single

/-! ### One step -/

/-- The argument is added and the sum is squared. -/
def ringStep (x acc : Single) : Single := Numeric.localSqr (acc + x)

/-- A step in which the sum is written twice, so it is computed twice. -/
def StepWrittenOut (x acc z : Single) : Prop :=
  ∃ left right, IsSum acc x left ∧ IsSum acc x right ∧ IsProduct left right z

/-- A step in which the sum is computed once and handed to the square. -/
def StepInRound (x acc z : Single) : Prop := ∃ sum, IsSum acc x sum ∧ IsProduct sum sum z

section
variable {x acc acc' z : Single}

theorem Single.Alike.ringStep (h : acc.Alike acc') : (ringStep x acc).Alike (ringStep x acc') :=
  (h.add (.refl x)).mul (h.add (.refl x))

theorem stepWrittenOut_iff : StepWrittenOut x acc z ↔ z.Alike (ringStep x acc) := by
  constructor
  · rintro ⟨left, right, hleft, hright, hz⟩
    exact (isProduct_iff.mp hz).trans ((isSum_iff.mp hleft).mul (isSum_iff.mp hright))
  · exact fun h => ⟨_, _, isSum_iff.mpr (.refl _), isSum_iff.mpr (.refl _), isProduct_iff.mpr h⟩

theorem stepInRound_iff : StepInRound x acc z ↔ z.Alike (ringStep x acc) := by
  constructor
  · rintro ⟨sum, hsum, hz⟩
    exact (isProduct_iff.mp hz).trans ((isSum_iff.mp hsum).mul (isSum_iff.mp hsum))
  · exact fun h => ⟨_, isSum_iff.mpr (.refl _), isProduct_iff.mpr h⟩

end

/-! ### Runs -/

/-- A run of the formula as it is written out. -/
def UnrolledRing (x z : Single) : Prop :=
  ∃ first second, IsProduct x x first ∧ StepWrittenOut x first second ∧ StepWrittenOut x second z

/-- A run of rounds that begin with zero. -/
inductive RingRounds (x : Single) : Nat → Single → Prop
  | none : RingRounds x 0 .zero
  | round {n : Nat} {acc z : Single} (earlier : RingRounds x n acc) (step : StepInRound x acc z) :
      RingRounds x (n + 1) z

section
variable {x z : Single}

theorem unrolledRing_iff : UnrolledRing x z ↔ z.Alike (Reference.ring x) := by
  constructor
  · rintro ⟨first, second, hfirst, hsecond, hz⟩
    have hsecond' := (stepWrittenOut_iff.mp hsecond).trans (isProduct_iff.mp hfirst).ringStep
    exact (stepWrittenOut_iff.mp hz).trans hsecond'.ringStep
  · intro h
    exact ⟨_, _, isProduct_iff.mpr (.refl _), stepWrittenOut_iff.mpr (.refl _), stepWrittenOut_iff.mpr h⟩

theorem ringRounds_iff {n : Nat} : RingRounds x n z ↔ z.Alike (Nat.repeat (ringStep x) n .zero) := by
  constructor
  · intro h
    induction h with
    | none => exact .refl _
    | round _ step ih => exact (stepInRound_iff.mp step).trans ih.ringStep
  · intro h
    induction n generalizing z with
    | zero =>
      have hnumber : Single.zero.isNaN = false := by decide
      obtain rfl := (alike_iff_of_number hnumber).mp h
      exact .none
    | succ n ih => exact .round (ih (.refl _)) (stepInRound_iff.mpr h)

end

/-! ### The first step -/

theorem ringStep_zero (x : Single) : ringStep x .zero = x * x := by
  have hzero : Single.zero.value = .zero false := rfl
  rw [ringStep, Numeric.localSqr]
  cases hx : x.value with
  | nan =>
    have hnan : Single.nan.value = .nan := rfl
    simp only [add_def, mul_def, add, mul, hzero, hx, hnan]
  | zero a =>
    have hsum : Single.zero + x = .zero := by
      simp only [add_def, add, hzero, hx, Bool.false_and]
      rfl
    simp only [hsum, mul_def, mul, hzero, hx, bne_self_eq_false]
  | infinity a => simp only [add_def, add, hzero, hx]
  | finite a m => simp only [add_def, add, hzero, hx]

/-- The sum is not the argument itself where that is the negative zero. -/
example : Single.zero + ofCode true 0 = Single.zero ∧ Single.zero ≠ ofCode true 0 := by decide

theorem ring_eq_localRing (x : Single) : Reference.ring x = Numeric.localRing x :=
  calc Reference.ring x = ringStep x (ringStep x (x * x)) := rfl
    _ = ringStep x (ringStep x (ringStep x .zero)) := by rw [ringStep_zero]
    _ = Numeric.localRing x := rfl

/-- For every bit pattern the written-out formula and the three rounds give the same bits or are both not numbers.
    So do all runs of the two in which each operation answers with a result that is allowed for it: what a run of
    one or the other may end with is what is alike to the value computed here. -/
theorem ring_agrees_with_rounds (x : Single) :
    (Reference.ring x).Alike (Numeric.localRing x) ∧
    (∀ z, UnrolledRing x z ↔ z.Alike (Reference.ring x)) ∧
    ∀ z, RingRounds x 3 z ↔ z.Alike (Numeric.localRing x) := by
  refine ⟨?_, fun z => unrolledRing_iff, fun z => ringRounds_iff⟩
  rw [ring_eq_localRing]
  exact .refl _

end KernelAudit
