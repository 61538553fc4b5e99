import KernelAudit.Proofs.Binary.Single
import KernelAudit.Proofs.Numeric.Agreement
import KernelAudit.Proofs.Numeric.Course

/-! How exact the numeric checks are. Numbers are compared by value, and no reference value is anything but a
    number, so a value that passes has the bits of the reference value; unless both are zeros, which are the
    same whatever their signs. The reference values are zero at the index 0 and nowhere else, so there, and
    only there, a kernel passes with bits that are not those of the reference value: it may answer `-0`. -/

namespace KernelAudit

/-! ### Numbers with the same value -/

namespace Single

theorem code_eq_zero_iff {x : Single} : x.code = 0 ↔ ∃ negative, x.value = .zero negative := by
  constructor
  · exact fun h => ⟨x.negative, value_eq_zero_iff.mpr ⟨h, rfl⟩⟩
  · rintro ⟨negative, hzero⟩
    exact (value_eq_zero_iff.mp hzero).1

theorem bits_of_code_eq_zero {x : Single} (h : x.code = 0) : x.bits = 0 ∨ x.bits = 0x80000000 := by
  have hlt : x.bits.toNat < 2 ^ 32 := x.bits.toNat_lt
  have hmod : x.bits.toNat % 0x80000000 = 0 := h
  have hcases : x.bits.toNat = 0 ∨ x.bits.toNat = 0x80000000 := by omega
  exact hcases.imp UInt32.toNat_inj.mp UInt32.toNat_inj.mp

/-- What has the same value as a number has its bits, or both are zeros. -/
theorem same_iff {x y : Single} (hy : y.isNaN = false) : x.same y = true ↔ x = y ∨ x.code = 0 ∧ y.code = 0 := by
  have hnan : y.value ≠ .nan := of_decide_eq_false hy
  rw [code_eq_zero_iff, code_eq_zero_iff, same]
  split
  · next hx =>
    refine iff_of_false Bool.false_ne_true ?_
    rintro (rfl | ⟨⟨negative, hzero⟩, -⟩)
    · exact hnan hx
    · rw [hx] at hzero
      cases hzero
  · next hy' _ => exact absurd hy' hnan
  · next hx hy' => exact iff_of_true rfl (Or.inr ⟨⟨_, hx⟩, ⟨_, hy'⟩⟩)
  · next hzeros =>
    refine decide_eq_true_iff.trans (or_iff_left ?_).symm
    rintro ⟨⟨_, hx⟩, ⟨_, hy'⟩⟩
    exact hzeros _ _ hx hy'

end Single

namespace Numeric

/-- A value at an index has the bits that are expected there, or is the negative zero at the index 0. -/
def Agrees (index : Nat) (value expected : Single) : Prop :=
  value.bits = expected.bits ∨ index = 0 ∧ value.bits = 0x80000000

/-- What is expected at an index is a number, and zero at the index 0 only, where it is positive. -/
structure Regular (index : Nat) (expected : Single) : Prop where
  number : expected.isNaN = false
  zero_iff : expected.code = 0 ↔ index = 0
  positive : expected.code = 0 → expected.bits = 0

theorem regular_iff {index : Nat} {expected : Single} : Regular index expected ↔
    expected.isNaN = false ∧ (expected.code = 0 ↔ index = 0) ∧ (expected.code = 0 → expected.bits = 0) :=
  ⟨fun h => ⟨h.number, h.zero_iff, h.positive⟩, fun ⟨h₁, h₂, h₃⟩ => ⟨h₁, h₂, h₃⟩⟩

theorem regular_localSqr : ∀ p ∈ expectations, Regular p.1 (localSqr (.ofNat p.1)) := by
  simp only [regular_iff]
  decide +kernel

theorem regular_localRing : ∀ p ∈ expectations, Regular p.1 (localRing (.ofNat p.1)) := by
  simp only [regular_iff]
  decide +kernel

theorem Regular.same_iff {index : Nat} {value expected : Single} (h : Regular index expected) :
    value.same expected = true ↔ Agrees index value expected := by
  rw [Single.same_iff h.number, Agrees, h.zero_iff]
  constructor
  · rintro (rfl | ⟨hvalue, rfl⟩)
    · exact Or.inl rfl
    · rw [h.positive (h.zero_iff.mpr rfl)]
      exact (Single.bits_of_code_eq_zero hvalue).imp_right fun hbits => ⟨rfl, hbits⟩
  · rintro (hbits | ⟨rfl, hbits⟩)
    · exact Or.inl (Single.eq_of_bits hbits)
    · refine Or.inr ⟨?_, rfl⟩
      rw [Single.code, hbits]
      decide

/-! ### Runs without a complaint -/

/-- The answers of the kernels to a run of the validator that comes to its end: at each index whatever `fib`
    answers first, and then the value that is expected of it and values of the other two that agree. -/
inductive Admitted : List (Nat × Int32) → List Answer → Prop where
  | done : Admitted [] []
  | round {index expectedFib rest answers} (written : Int32) {sqr ring : Single}
      (hsqr : Agrees index sqr (localSqr (.ofNat index))) (hring : Agrees index ring (localRing (.ofNat index)))
      (later : Admitted rest answers) :
      Admitted ((index, expectedFib) :: rest)
        ([.fib (.ofNat index) written, .fib (.ofNat index) expectedFib, .sqr (.ofNat index) sqr,
          .ring (.ofNat index) ring] ++ answers)

theorem Comparison.failed_eq_false_iff {c : Comparison} : c.failed = false ↔
    c.fib = c.expectedFib ∧ c.sqr.same c.expectedSqr = true ∧ c.ring.same c.expectedRing = true := by
  rw [← Bool.not_eq_true, failed_iff, not_or, not_or, fibMismatch, sqrMismatch, ringMismatch]
  simp only [bne_iff_ne, ne_eq, not_not, Bool.not_eq_true', Bool.not_eq_false]

theorem Admitted.length_eq {expected : List (Nat × Int32)} {answers : List Answer} (h : Admitted expected answers) :
    answers.length = 4 * expected.length := by
  induction h with
  | done => rfl
  | round _ _ _ _ ih => simp only [List.length_append, List.length_cons, List.length_nil, ih, Nat.mul_succ]; omega

section
variable {expected rest : List (Nat × Int32)} {p : Nat × Int32} {answers : List Answer}

theorem Admitted.four_le (h : Admitted (p :: rest) answers) : 4 ≤ answers.length := by
  rw [h.length_eq, List.length_cons]
  omega

/-- The answers of one more index are admitted exactly if the comparison there has not failed. -/
theorem admitted_cons_iff {c : Comparison} (value : Int32) (hat : c.IsAt p)
    (hsqr : Regular p.1 (localSqr (.ofNat p.1))) (hring : Regular p.1 (localRing (.ofNat p.1))) :
    Admitted (p :: rest) (.fib (.ofNat p.1) value :: c.answers ++ answers) ↔
      c.failed = false ∧ Admitted rest answers := by
  rw [Comparison.failed_eq_false_iff, hat.fib, hat.sqr, hat.ring, hsqr.same_iff, hring.same_iff, Comparison.answers,
    hat.index]
  generalize c.fib = fib, c.sqr = sqr, c.ring = ring
  constructor
  · intro h
    cases h with
    | round _ hs hr hlater => exact ⟨⟨rfl, hs, hr⟩, hlater⟩
  · rintro ⟨⟨rfl, hs, hr⟩, hlater⟩
    exact .round value hs hr hlater

theorem flatMap_answers_events (t : Turn) : t.events.flatMap Event.answers =
    .fib (.ofNat t.comparison.index) t.value :: t.comparison.answers := by
  rw [Turn.events, List.flatMap_append, List.flatMap_cons, List.flatMap_cons, flatMap_answers_accepted,
    flatMap_answers_answer]
  rfl

/-- A run passes exactly if the answers in it are admitted. -/
theorem Course.passed_iff {result : Except Interruption Outcome} {events : List Event} (h : Course expected result events)
    (hsqr : ∀ p ∈ expected, Regular p.1 (localSqr (.ofNat p.1)))
    (hring : ∀ p ∈ expected, Regular p.1 (localRing (.ofNat p.1))) :
    result.map Outcome.verdict = .ok .pass ↔ Admitted expected (events.flatMap Event.answers) := by
  induction h with
  | done => exact iff_of_true rfl .done
  | @faulted p rest fault call earlier hfine hshort =>
    refine iff_of_false nofun fun hadmitted => Nat.not_lt.mpr hadmitted.four_le ?_
    rw [List.flatMap_append]
    exact (List.append_nil (earlier.flatMap Event.answers)).symm ▸ hshort
  | @refused p rest reason accepted value hbegins =>
    refine iff_of_false nofun fun hadmitted => Nat.not_lt.mpr hadmitted.four_le ?_
    rw [List.flatMap_append, List.flatMap_cons, flatMap_answers_accepted]
    exact Nat.le_of_ble_eq_true rfl
  | @mismatch p rest t hat hfailed =>
    have hnot : ¬Admitted (p :: rest) (.fib (.ofNat p.1) t.value :: t.comparison.answers ++ []) := by
      rw [admitted_cons_iff t.value hat (hsqr p List.mem_cons_self) (hring p List.mem_cons_self), hfailed]
      nofun
    rw [List.append_nil, ← hat.index] at hnot
    rw [flatMap_answers_events]
    exact iff_of_false nofun hnot
  | @next p rest t result events hat hpassed later ih =>
    rw [List.flatMap_append, flatMap_answers_events, hat.index,
      admitted_cons_iff t.value hat (hsqr p List.mem_cons_self) (hring p List.mem_cons_self), and_iff_right hpassed,
      ← ih (fun q hq => hsqr q (List.mem_cons_of_mem _ hq)) fun q hq => hring q (List.mem_cons_of_mem _ hq)]
    cases result <;> rfl

end

/-- The answer to a sweep at an index is one that agrees. -/
def AgreesAt (answer : Single → Single → Answer) (expected : Single → Single) (p : Nat × Int32) (a : Answer) : Prop :=
  ∃ value, a = answer (.ofNat p.1) value ∧ Agrees p.1 value (expected (.ofNat p.1))

/-- A sweep reports nothing exactly if there is an answer at each index and they all agree. -/
theorem Swept.nothing_iff {answer : Single → Single → Answer} (hanswer : ∀ x, Function.Injective (answer x))
    {expected : Single → Single} {ps : List (Nat × Int32)} {result : Except Fault (List (Deviation Single))}
    {events : List Event}
    (h : Swept (fun p => answer (.ofNat p.1)) (fun p => expected (.ofNat p.1)) ps result events)
    (hregular : ∀ p ∈ ps, Regular p.1 (expected (.ofNat p.1))) :
    result.map (·.filter fun d => !d.actual.same d.expected) = .ok [] ↔
      List.Forall₂ (AgreesAt answer expected) ps (events.flatMap Event.answers) := by
  induction h with
  | done => exact iff_of_true rfl .nil
  | faulted => exact iff_of_false nofun nofun
  | @next p rest result events value later ih =>
    have hhead : AgreesAt answer expected p (answer (.ofNat p.1) value) ↔
        value.same (expected (.ofNat p.1)) = true := by
      rw [(hregular p List.mem_cons_self).same_iff]
      constructor
      · rintro ⟨_, heq, hagrees⟩
        obtain rfl := hanswer _ heq
        exact hagrees
      · exact fun hagrees => ⟨value, rfl, hagrees⟩
    have hanswers : (Event.answer (answer (.ofNat p.1) value) :: events).flatMap Event.answers =
        answer (.ofNat p.1) value :: events.flatMap Event.answers := rfl
    rw [hanswers, List.forall₂_cons, hhead, ← ih fun q hq => hregular q (List.mem_cons_of_mem _ hq)]
    cases result with
    | error fault => exact iff_of_false nofun nofun
    | ok ds =>
      simp only [Except.map, Except.ok.injEq, List.filter_cons]
      cases value.same (expected (.ofNat p.1)) with
      | true => exact (and_iff_right rfl).symm
      | false => exact iff_of_false nofun nofun

theorem logs_sweep_nothing (call : Single → KernelCall) (answer : Single → Single → Answer)
    (hanswer : ∀ x, Function.Injective (answer x)) {σ : Type} (kernel : Single → Faulty (StateM σ) Single)
    (expected : Single → Single) (hregular : ∀ p ∈ expectations, Regular p.1 (expected (.ofNat p.1))) :
    Logs (fun result answers => result = .ok [] ↔ List.Forall₂ (AgreesAt answer expected) expectations answers)
      (sweepSingle (fun x => notedCall Event.answers (call x) (answer x) (kernel x)) expected).run
      (sweepSingle kernel expected).run := by
  have hnotes := notes_sweep Event.answers (fun p => answer (.ofNat p.1)) (fun p => expected (.ofNat p.1))
    (fun p => call (.ofNat p.1)) (fun p => kernel (.ofNat p.1)) (fun d => !d.actual.same d.expected)
  refine Notes.logs hnotes ?_
  rintro _ events ⟨result, hswept, rfl⟩
  exact hswept.nothing_iff hanswer hregular

/-- What becomes of the output is no answer. -/
theorem Sink.logged_eq_noted {m : Type → Type} [Monad m] (sink : Sink m) : sink.logged = sink.noted Event.answers := by
  have haccepted : ∀ c outcome, (Event.ofWrite (.accepted c) outcome).answers = [] := by
    intro c outcome
    cases outcome <;> rfl
  have hflushed : ∀ outcome, (Event.ofWrite .flushed outcome).answers = [] := by
    intro outcome
    cases outcome <;> rfl
  simp only [logged, noted, haccepted, hflushed]

/-- Whatever state the kernels keep, wherever they fault and whatever becomes of the output: the validator
    passes exactly if at each index the second answer of `fib` is the expected one and those of `sqr` and `ring`
    agree with the reference values, and a sweep of one of these reports nothing exactly if its answers do. To
    agree is to have the same bits, but for the index 0, where the negative zero agrees too. -/
theorem exact_up_to_sign_of_zero {σ : Type} (kernel : NumericKernel (StateM σ)) (sink : Sink (StateM σ)) :
    Logs (fun result answers => result.map Outcome.verdict = .ok .pass ↔ Admitted expectations answers)
      (validate kernel.transcribed sink.logged).run (validate kernel sink).run ∧
    Logs (fun result answers =>
        result = .ok [] ↔ List.Forall₂ (AgreesAt Answer.sqr localSqr) expectations answers)
      (sweepSqr kernel.transcribed).run (sweepSqr kernel).run ∧
    Logs (fun result answers =>
        result = .ok [] ↔ List.Forall₂ (AgreesAt Answer.ring localRing) expectations answers)
      (sweepRing kernel.transcribed).run (sweepRing kernel).run := by
  refine ⟨?_, ?_, ?_⟩
  · rw [Sink.logged_eq_noted]
    exact (notes_validateAll _ kernel sink expectations).logs fun _ _ hcourse =>
      hcourse.passed_iff regular_localSqr regular_localRing
  · exact logs_sweep_nothing .sqr .sqr (fun _ _ _ heq => (Answer.sqr.inj heq).2) kernel.sqr localSqr regular_localSqr
  · exact logs_sweep_nothing .ring .ring (fun _ _ _ heq => (Answer.ring.inj heq).2) kernel.ring localRing
      regular_localRing

/-- A square kernel whose square of zero is the negative zero. -/
def negativeSqr (x : Single) : Single := if x = .zero then .ofCode true 0 else x * x

/-- This kernel passes everywhere, though its answer at the index 0 has not the bits of the reference value. -/
theorem not_exact_at_zero :
    let kernel : NumericKernel (StateM Unit) := .ofFunctions Reference.fib negativeSqr Reference.ring
    validate kernel Builtin.discard = pure ⟨referenceSequence, none⟩ ∧
    sweepSqr kernel = pure [] ∧ sweepRing kernel = pure [] ∧
    (0, 1) ∈ expectations ∧ (negativeSqr (.ofNat 0)).bits ≠ (localSqr (.ofNat 0)).bits := by
  intro kernel
  have houtcome : outcomeOf (expectations.map (comparison Reference.fib negativeSqr Reference.ring)) =
      ⟨referenceSequence, none⟩ := by decide +kernel
  have hsqr : singleDeviations negativeSqr localSqr = [] := by decide +kernel
  refine ⟨?_, ?_, ?_, by decide, by decide +kernel⟩
  · rw [← houtcome]
    exact validateAll_ofFunctions ..
  · rw [← hsqr]
    exact sweepSingle_pure ..
  · rw [← singleDeviations_ring_reference]
    exact sweepSingle_pure ..

end Numeric

end KernelAudit
