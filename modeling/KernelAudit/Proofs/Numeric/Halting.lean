import KernelAudit.Proofs.Numeric.Course
import KernelAudit.Proofs.Numeric.Description
import KernelAudit.Proofs.Numeric.Exactness
import Mathlib.Order.Bounds.Basic

/-! Where a run of the numeric validator halts. In a run in which nothing fails, each index that is reached has
    its value written and its four calls made, in a fixed order; the run halts behind the first index where an
    answer deviates from what is expected, or behind the last one, and its outcome tells what the kernels
    answered then, whatever they remember of the calls before. -/

namespace KernelAudit

/-- Unequal as numbers: one of them is none, or they differ and are not two zeros. -/
def Single.Unequal (x y : Single) : Prop :=
  x.isNaN = true ∨ y.isNaN = true ∨ x ≠ y ∧ ¬(x.code = 0 ∧ y.code = 0)

theorem Single.same_eq_false_iff {x y : Single} : x.same y = false ↔ x.Unequal y := by
  cases hy : y.isNaN with
  | true =>
    have hvalue : y.value = .nan := of_decide_eq_true hy
    refine iff_of_true ?_ (Or.inr (Or.inl hy))
    rw [same, hvalue]
    cases x.value <;> rfl
  | false =>
    have hnan : x.isNaN = true → ¬(x = y ∨ x.code = 0 ∧ y.code = 0) := by
      rintro hx (rfl | ⟨hzero, -⟩)
      · rw [hy] at hx
        cases hx
      · obtain ⟨negative, hvalue⟩ := code_eq_zero_iff.mp hzero
        rw [isNaN, hvalue] at hx
        cases hx
    rw [← Bool.not_eq_true, same_iff hy, Unequal, hy]
    constructor
    · exact fun h => Or.inr (Or.inr (not_or.mp h))
    · rintro (hx | hfalse | h)
      · exact hnan hx
      · cases hfalse
      · exact not_or.mpr h

namespace Numeric

/-! ### Comparisons that deviate -/

namespace Comparison
variable {c : Comparison}

/-- Some kernel did not answer with the value that is expected of it. -/
def Deviates (c : Comparison) : Prop :=
  c.fib ≠ c.expectedFib ∨ c.sqr.Unequal c.expectedSqr ∨ c.ring.Unequal c.expectedRing

theorem fibMismatch_iff : c.fibMismatch = true ↔ c.fib ≠ c.expectedFib := bne_iff_ne

theorem sqrMismatch_iff : c.sqrMismatch = true ↔ c.sqr.Unequal c.expectedSqr := by
  rw [sqrMismatch, Bool.not_eq_true', Single.same_eq_false_iff]

theorem ringMismatch_iff : c.ringMismatch = true ↔ c.ring.Unequal c.expectedRing := by
  rw [ringMismatch, Bool.not_eq_true', Single.same_eq_false_iff]

theorem failed_iff_deviates : c.failed = true ↔ c.Deviates := by
  rw [failed_iff, fibMismatch_iff, sqrMismatch_iff, ringMismatch_iff, Deviates]

theorem not_deviates_iff : ¬c.Deviates ↔ c.failed = false := by
  rw [← failed_iff_deviates, Bool.not_eq_true]

end Comparison

/-! ### What a record holds -/

namespace Event

def accepted? : Event → Option Char
  | .accepted c => some c
  | _ => none

def isFib : Event → Bool
  | .answer (.fib ..) => true
  | _ => false

def isSqr : Event → Bool
  | .answer (.sqr ..) => true
  | _ => false

def isRing : Event → Bool
  | .answer (.ring ..) => true
  | _ => false

end Event

/-- Writing makes no calls. -/
theorem countP_accepted {p : Event → Bool} (hp : ∀ c, p (.accepted c) = false) (text : List Char) :
    (text.map Event.accepted).countP p = 0 := by
  rw [List.countP_map, List.countP_eq_zero]
  exact fun c _ => by simp [hp]

theorem countP_events {p : Event → Bool} (hp : ∀ c, p (.accepted c) = false) (t : Turn) :
    t.events.countP p = (Event.answer (.fib (.ofNat t.comparison.index) t.value) :: .flushed ::
      t.comparison.answers.map .answer).countP p := by
  rw [Turn.events, List.cons_append, List.countP_cons, List.countP_append, countP_accepted hp, Nat.zero_add,
    ← List.countP_cons]

/-- The calls of one index add up over all of them. -/
theorem countP_flatMap_events {p : Event → Bool} {count : Nat} (h : ∀ t : Turn, t.events.countP p = count)
    (turns : List Turn) : (turns.flatMap Turn.events).countP p = count * turns.length := by
  induction turns with
  | nil => rfl
  | cons t rest ih => rw [List.flatMap_cons, List.countP_append, h, ih, List.length_cons, Nat.mul_succ, Nat.add_comm]

theorem filterMap_accepted (text : List Char) : (text.map Event.accepted).filterMap Event.accepted? = text := by
  rw [List.filterMap_map]
  exact List.filterMap_some

theorem filterMap_events (t : Turn) : t.events.filterMap Event.accepted? = (written t.value).toList := by
  rw [Turn.events, List.cons_append, List.filterMap_cons_none rfl, List.filterMap_append, filterMap_accepted]
  exact List.append_nil _

/-- What the sink accepts in a run is what the outcome says was written. -/
theorem toList_printed (turns : List Turn) (mismatch : Option Comparison) :
    (turns.flatMap Turn.events).filterMap Event.accepted? = (Outcome.mk (turns.map Turn.value) mismatch).printed.toList := by
  rw [List.filterMap_flatMap, Outcome.printed, String.toList_join, List.map_map, List.flatMap_map]
  exact congrArg (List.flatMap · turns) (funext filterMap_events)

/-- The calls of a run: `fib` twice at each index, the others once. -/
structure CallsMade (count : Nat) (events : List Event) : Prop where
  fib : events.countP Event.isFib = 2 * count
  sqr : events.countP Event.isSqr = count
  ring : events.countP Event.isRing = count

theorem callsMade_events (turns : List Turn) : CallsMade turns.length (turns.flatMap Turn.events) where
  fib := countP_flatMap_events (fun t => (countP_events (fun _ => rfl) t).trans rfl) turns
  sqr := (countP_flatMap_events (fun t => (countP_events (fun _ => rfl) t).trans rfl) turns).trans (Nat.one_mul _)
  ring := (countP_flatMap_events (fun t => (countP_events (fun _ => rfl) t).trans rfl) turns).trans (Nat.one_mul _)

/-! ### Runs in which nothing fails -/

/-- The turns of a run in which nothing fails: all comparisons but the last pass, and the last one too if it is
    that of the last index. -/
theorem Course.exists_turns {expected : List (Nat × Int32)} {result : Except Interruption Outcome}
    {events : List Event} (h : Course expected result events) (hok : ∀ event ∈ events, event.isFailure = false) :
    ∃ turns mismatch, result = .ok ⟨turns.map Turn.value, mismatch⟩ ∧ events = turns.flatMap Turn.events ∧
      List.Forall₂ (fun t p => t.comparison.IsAt p) turns (expected.take turns.length) ∧
      (turns.length = expected.length ∧ (∀ t ∈ turns, t.comparison.failed = false) ∧ mismatch = none ∨
        ∃ earlier last, turns = earlier ++ [last] ∧ (∀ t ∈ earlier, t.comparison.failed = false) ∧
          last.comparison.failed = true ∧ mismatch = some last.comparison) := by
  induction h with
  | done => exact ⟨[], none, rfl, rfl, .nil, Or.inl ⟨rfl, nofun, rfl⟩⟩
  | faulted call hfine hshort => cases hok _ (List.mem_append_right _ (List.mem_singleton_self _))
  | refused value hbegins => cases hok _ (List.mem_append_right _ (List.mem_singleton_self _))
  | @mismatch p rest t hat hfailed =>
    exact ⟨[t], some t.comparison, rfl, (List.flatMap_singleton ..).symm, .cons hat .nil,
      Or.inr ⟨[], t, rfl, nofun, hfailed, rfl⟩⟩
  | @next p rest t result events hat hpassed later ih =>
    obtain ⟨turns, mismatch, rfl, rfl, hats, hjudged⟩ := ih fun event hevent => hok event (List.mem_append_right _ hevent)
    refine ⟨t :: turns, mismatch, rfl, rfl, .cons hat hats, ?_⟩
    rcases hjudged with ⟨hlength, hall, rfl⟩ | ⟨earlier, last, rfl, hearlier, hfailed, rfl⟩
    · exact Or.inl ⟨congrArg (· + 1) hlength, List.forall_mem_cons.mpr ⟨hpassed, hall⟩, rfl⟩
    · exact Or.inr ⟨t :: earlier, last, rfl, List.forall_mem_cons.mpr ⟨hpassed, hearlier⟩, hfailed, rfl⟩

/-- The outcome has the values that were written and the first comparison that deviates, and the run comes to
    the index of that one, or through all ten if there is none. -/
structure Halted (turns : List Turn) (outcome : Outcome) : Prop where
  values_eq : outcome.values = turns.map Turn.value
  passed_iff : outcome.mismatch = none ↔ ∀ t ∈ turns, ¬t.comparison.Deviates
  mismatch_iff : ∀ c, outcome.mismatch = some c ↔
    IsLeast {i | ∃ h : i < turns.length, turns[i].comparison.Deviates} c.index ∧
      ∃ h : c.index < turns.length, turns[c.index].comparison = c
  length_eq : turns.length = match outcome.mismatch with
    | some c => c.index + 1
    | none => 10

theorem fst_getElem_expectations {i : Nat} (hi : i < expectations.length) : expectations[i].1 = i := by
  have hindices : expectations.map Prod.fst = List.range 10 := rfl
  have hat := List.getElem_of_eq hindices (i := i) (by rwa [List.length_map])
  rwa [List.getElem_map, List.getElem_range] at hat

/-- The comparisons of a run stand in the order of their indices. -/
theorem index_of_isAt {turns : List Turn}
    (h : List.Forall₂ (fun t p => t.comparison.IsAt p) turns (expectations.take turns.length)) {i : Nat}
    (hi : i < turns.length) : turns[i].comparison.index = i := by
  have hat := h.get hi (h.length_eq ▸ hi)
  rw [List.get_eq_getElem, List.get_eq_getElem, List.getElem_take] at hat
  exact hat.index.trans (fst_getElem_expectations _)

theorem halted_of_passed {turns : List Turn} (hlength : turns.length = 10)
    (h : ∀ t ∈ turns, ¬t.comparison.Deviates) : Halted turns ⟨turns.map Turn.value, none⟩ := by
  refine ⟨rfl, iff_of_true rfl h, fun c => iff_of_false nofun ?_, hlength⟩
  rintro ⟨⟨⟨_, hdeviates⟩, -⟩, -⟩
  exact h _ (List.getElem_mem _) hdeviates

theorem halted_of_deviates {earlier : List Turn} {last : Turn} (hindex : last.comparison.index = earlier.length)
    (h : ∀ t ∈ earlier, ¬t.comparison.Deviates) (hlast : last.comparison.Deviates) :
    Halted (earlier ++ [last]) ⟨(earlier ++ [last]).map Turn.value, some last.comparison⟩ := by
  have hleast := isLeast_append_singleton h hlast
  refine ⟨rfl, iff_of_false nofun fun hall => hall last (by simp) hlast, fun c => ?_, ?_⟩
  · constructor
    · rintro ⟨⟩
      rw [hindex]
      refine ⟨hleast, by simp, ?_⟩
      rw [List.getElem_concat_length rfl]
    · rintro ⟨hleast', hlt, hc⟩
      have hat : c.index = earlier.length := hleast'.unique hleast
      simp only [hat] at hc
      rw [List.getElem_concat_length rfl] at hc
      rw [hc]
  · rw [List.length_append, List.length_singleton, ← hindex]

/-- The numeric validator on any kernels and any sink, in a run in which no kernel faults and the sink refuses
    nothing. At each index that is reached `fib` is asked, its value written and flushed, and then `fib`, `sqr`
    and `ring` are asked and compared. The run halts behind the first index where an answer deviates, if there is
    one; the outcome has the comparison of that index, and its flags and its description tell which kernels
    deviated. The sink has taken what the outcome says was written. -/
theorem validate_halts_at_first_deviation {σ : Type} (kernel : NumericKernel (StateM σ)) (sink : Sink (StateM σ))
    (s : σ) :
    let run := ((validate kernel.witnessed sink.witnessed).run.run []).run s
    let events := run.1.2
    (validate kernel sink).run.run s = (run.1.1, run.2) ∧
    ((∀ event ∈ events, event.isFailure = false) → ∃ turns outcome, run.1.1 = .ok outcome ∧
      events = turns.flatMap Turn.events ∧
      List.Forall₂ (fun t p => t.comparison.IsAt p) turns (expectations.take turns.length) ∧
      Halted turns outcome ∧ CallsMade turns.length events ∧
      String.ofList (events.filterMap Event.accepted?) = outcome.printed) ∧
    ∀ c : Comparison, (c.fibMismatch = true ↔ c.fib ≠ c.expectedFib) ∧
      (c.sqrMismatch = true ↔ c.sqr.Unequal c.expectedSqr) ∧ (c.ringMismatch = true ↔ c.ring.Unequal c.expectedRing) ∧
      (TellsOf "fib".toList c.describe.toList ↔ c.fibMismatch = true) ∧
      (TellsOf "sqr".toList c.describe.toList ↔ c.sqrMismatch = true) ∧
      (TellsOf "ring".toList c.describe.toList ↔ c.ringMismatch = true) := by
  intro run events
  obtain ⟨hrun, hcourse⟩ := course_of_run kernel sink s
  refine ⟨hrun, fun hok => ?_, fun c => ⟨Comparison.fibMismatch_iff, Comparison.sqrMismatch_iff,
    Comparison.ringMismatch_iff, c.tellsOf_describe_iff List.mem_cons_self,
    c.tellsOf_describe_iff (List.mem_cons_of_mem _ List.mem_cons_self),
    c.tellsOf_describe_iff (List.mem_cons_of_mem _ (List.mem_cons_of_mem _ List.mem_cons_self))⟩⟩
  obtain ⟨turns, mismatch, hresult, hevents, hats, hjudged⟩ := hcourse.exists_turns hok
  have hevents' : events = turns.flatMap Turn.events := hevents
  refine ⟨turns, ⟨turns.map Turn.value, mismatch⟩, hresult, hevents', hats, ?_, hevents' ▸ callsMade_events turns, ?_⟩
  · rcases hjudged with ⟨hlength, hall, rfl⟩ | ⟨earlier, last, rfl, hearlier, hfailed, rfl⟩
    · exact halted_of_passed hlength fun t ht => Comparison.not_deviates_iff.mpr (hall t ht)
    · have hindex := index_of_isAt hats (i := earlier.length) (by simp)
      rw [List.getElem_concat_length rfl] at hindex
      exact halted_of_deviates hindex (fun t ht => Comparison.not_deviates_iff.mpr (hearlier t ht))
        (Comparison.failed_iff_deviates.mp hfailed)
  · rw [hevents', toList_printed, String.ofList_toList]

/-- Kernels of which one forgets its numbers after five calls and another has none at 2. -/
def forgetful : NumericKernel (StateM Nat) where
  fib index := ExceptT.mk fun calls => (.ok (if calls < 5 then Reference.fib index else 0), calls + 1)
  sqr x := pure (if x = .ofNat 2 then .nan else x * x)
  ring x := pure (Reference.ring x)

/-- The value written at the index 2 is right, and the run halts there all the same. -/
theorem validate_halts_at_first_deviation_sample :
    let run := ((validate forgetful.witnessed Builtin.discard.witnessed).run.run []).run 0
    (∀ event ∈ run.1.2, event.isFailure = false) ∧ ∃ turns outcome c, Halted turns outcome ∧
      outcome.values = [1, 1, 2] ∧ outcome.mismatch = some c ∧ c.index = 2 ∧ turns.length = 3 ∧
      TellsOf "fib".toList c.describe.toList ∧ TellsOf "sqr".toList c.describe.toList ∧
      ¬TellsOf "ring".toList c.describe.toList := by
  intro run
  have hok : ∀ event ∈ run.1.2, event.isFailure = false := by decide +kernel
  have houtcome : (run.1.1.toOption.map fun o => (o.values, o.mismatch.map fun c =>
      (c.index, c.fibMismatch, c.sqrMismatch, c.ringMismatch))) = some ([1, 1, 2], some (2, true, true, false)) := by
    decide +kernel
  obtain ⟨-, hrun, hflags⟩ := validate_halts_at_first_deviation forgetful Builtin.discard 0
  obtain ⟨turns, outcome, hresult, -, -, hhalted, -⟩ := hrun hok
  have hresult' : run.1.1 = _ := hresult
  rw [hresult'] at houtcome
  obtain ⟨hvalues, hmismatch⟩ := Prod.mk.inj (Option.some.inj houtcome)
  obtain ⟨c, hc, hat⟩ := Option.map_eq_some_iff.mp hmismatch
  simp only [Prod.mk.injEq] at hat
  obtain ⟨hindex, hfib, hsqr, hring⟩ := hat
  obtain ⟨-, -, -, hnamesFib, hnamesSqr, hnamesRing⟩ := hflags c
  have hlength : turns.length = c.index + 1 := by rw [hhalted.length_eq, hc]
  rw [hindex] at hlength
  refine ⟨hok, turns, outcome, c, hhalted, hvalues, hc, hindex, hlength, hnamesFib.mpr hfib, hnamesSqr.mpr hsqr, ?_⟩
  rw [hnamesRing, hring]
  exact Bool.false_ne_true

end Numeric

end KernelAudit
