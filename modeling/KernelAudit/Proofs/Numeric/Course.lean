import KernelAudit.Proofs.Kernel.Record
import KernelAudit.Validator.Numeric

/-! The course of a run of the numeric validator, and of a sweep. With notes about all that happens in it, what the
    sink does as well as the answers of the kernels, a run does what it did before, and what has happened shows
    how it went (`Course`): index by index, a value is asked for, written and flushed, and only then are the
    three kernels compared. A sweep has one answer for each index (`Swept`). -/

namespace KernelAudit

/-- An answer of a numeric kernel, with what it was asked. -/
inductive Answer where
  | fib (index value : Int32)
  | sqr (x value : Single)
  | ring (x value : Single)
  deriving DecidableEq, Repr

def Answer.call : Answer → KernelCall
  | .fib index _ => .fib index
  | .sqr x _ => .sqr x
  | .ring x _ => .ring x

namespace Numeric

/-- What happens in a run: a kernel answers or faults, the sink accepts a character, is flushed, or refuses. -/
inductive Event where
  | answer (answer : Answer)
  | fault (call : KernelCall) (fault : Fault)
  | accepted (c : Char)
  | flushed
  | refused (reason : String)
  deriving DecidableEq, Repr

namespace Event

def isFault : Event → Bool
  | .fault .. => true
  | _ => false

@[simp] theorem isFault_answer (a : Answer) : isFault (.answer a) = false := rfl

@[simp] theorem isFault_accepted (c : Char) : isFault (.accepted c) = false := rfl

@[simp] theorem isFault_flushed : isFault .flushed = false := rfl

@[simp] theorem isFault_refused (reason : String) : isFault (.refused reason) = false := rfl

/-- A fault of a kernel or a refusal of the sink. -/
def isFailure : Event → Bool
  | .fault .. | .refused _ => true
  | _ => false

def ofCall {α : Type} (call : KernelCall) (answer : α → Answer) : Except Fault α → Event
  | .ok value => .answer (answer value)
  | .error f => .fault call f

def ofWrite (done : Event) : Except String Unit → Event
  | .ok _ => done
  | .error reason => .refused reason

def answers : Event → List Answer
  | .answer a => [a]
  | _ => []

def uses : Event → List KernelUse
  | .answer a => [⟨a.call, none⟩]
  | .fault call f => [⟨call, some f⟩]
  | _ => []

end Event

end Numeric

section
variable {m : Type → Type} [Monad m] {α τ : Type}

open Numeric (Event)

/-- A call that is written down when it is over. -/
def notedCall (notes : Event → List τ) (call : KernelCall) (answer : α → Answer) (act : Faulty m α) :
    Faulty (StateT (List τ) m) α :=
  ExceptT.mk (noted (fun outcome => notes (.ofCall call answer outcome)) act.run)

namespace NumericKernel

/-- The kernels, with notes about each call. -/
def noted (kernel : NumericKernel m) (notes : Event → List τ) : NumericKernel (StateT (List τ) m) where
  fib index := notedCall notes (.fib index) (.fib index) (kernel.fib index)
  sqr x := notedCall notes (.sqr x) (.sqr x) (kernel.sqr x)
  ring x := notedCall notes (.ring x) (.ring x) (kernel.ring x)

def witnessed (kernel : NumericKernel m) : NumericKernel (StateT (List Event) m) := kernel.noted fun event => [event]

/-- The kernels, with a record of their answers. -/
def transcribed (kernel : NumericKernel m) : NumericKernel (StateT (List Answer) m) := kernel.noted Event.answers

end NumericKernel

namespace Numeric.Sink

/-- The sink, with notes about what it accepts and what it refuses. -/
def noted (sink : Sink m) (notes : Event → List τ) : Sink (StateT (List τ) m) where
  put c := ExceptT.mk (KernelAudit.noted (fun outcome => notes (.ofWrite (.accepted c) outcome)) (sink.put c).run)
  flush := ExceptT.mk (KernelAudit.noted (fun outcome => notes (.ofWrite .flushed outcome)) sink.flush.run)

def witnessed (sink : Sink m) : Sink (StateT (List Event) m) := sink.noted fun event => [event]

/-- A sink on a machine that keeps a log, which it does not touch. -/
def logged (sink : Sink m) : Sink (StateT (List τ) m) := sink.noted fun _ => []

end Numeric.Sink

end

namespace Numeric

variable {σ τ α : Type} (notes : Event → List τ)

/-! ### Calls and writes -/

theorem notes_call (call : KernelCall) (answer : α → Answer) (act : Faulty (StateM σ) α) :
    Notes notes (fun outcome events => events = [.ofCall call answer outcome]) (notedCall notes call answer act).run
      act.run :=
  Notes.noted fun _ => rfl

/-- A text that is sent to the sink is accepted to its end and followed by `done`, or accepted up to some place
    at which the sink refuses. -/
def Sent (text : List Char) (done : List Event) : Except String Unit → List Event → Prop
  | .ok _, events => events = text.map .accepted ++ done
  | .error reason, events =>
    ∃ accepted, accepted <+: text ∧ events = accepted.map .accepted ++ [.refused reason]

theorem notes_puts (sink : Sink (StateM σ)) (text : List Char) :
    Notes notes (Sent text []) (text.forM (sink.noted notes).put).run (text.forM sink.put).run := by
  induction text with
  | nil => exact Notes.of_pure rfl
  | cons c rest ih =>
    have hput : Notes notes (fun outcome events => events = [.ofWrite (.accepted c) outcome])
        ((sink.noted notes).put c).run (sink.put c).run := Notes.noted fun _ => rfl
    rw [List.forM_eq_forM, List.forM_eq_forM, List.forM_cons, List.forM_cons]
    refine Notes.bind_run hput ?_ ?_
    · rintro reason _ rfl
      exact ⟨[], List.nil_prefix, rfl⟩
    rintro _ _ rfl
    refine ih.mono fun outcome events hsent => ?_
    cases outcome with
    | ok _ => exact congrArg (Event.accepted c :: ·) hsent
    | error reason =>
      obtain ⟨accepted, hbegins, rfl⟩ := hsent
      exact ⟨c :: accepted, List.cons_prefix_cons.mpr ⟨rfl, hbegins⟩, rfl⟩

theorem notes_write (sink : Sink (StateM σ)) (text : String) :
    Notes notes (Sent text.toList [.flushed]) ((sink.noted notes).write text).run (sink.write text).run := by
  have hflush : Notes notes (fun outcome events => events = [.ofWrite .flushed outcome]) (sink.noted notes).flush.run
      sink.flush.run := Notes.noted fun _ => rfl
  refine Notes.bind_run (notes_puts notes sink text.toList) (fun _ _ hsent => hsent) ?_
  intro _ events hsent
  obtain rfl : events = text.toList.map .accepted := hsent.trans (List.append_nil _)
  refine hflush.mono fun outcome added hadded => ?_
  subst hadded
  cases outcome with
  | ok _ => rfl
  | error reason => exact ⟨text.toList, List.prefix_rfl, rfl⟩

/-! ### Runs of the validator -/

namespace Comparison

/-- The comparison is about the index, and the values expected there. -/
structure IsAt (c : Comparison) (p : Nat × Int32) : Prop where
  index : c.index = p.1
  fib : c.expectedFib = p.2
  sqr : c.expectedSqr = localSqr (.ofNat p.1)
  ring : c.expectedRing = localRing (.ofNat p.1)

def answers (c : Comparison) : List Answer :=
  [.fib (.ofNat c.index) c.fib, .sqr (.ofNat c.index) c.sqr, .ring (.ofNat c.index) c.ring]

end Comparison

/-- One index of a run: the value that was written and the comparison that was made after it. -/
structure Turn where
  value : Int32
  comparison : Comparison
  deriving DecidableEq, Repr

def Turn.events (t : Turn) : List Event :=
  .answer (.fib (.ofNat t.comparison.index) t.value) :: (written t.value).toList.map .accepted ++
    .flushed :: t.comparison.answers.map .answer

/-- How a run of the validator over some indices went. -/
inductive Course : List (Nat × Int32) → Except Interruption Outcome → List Event → Prop where
  | done : Course [] (.ok ⟨[], none⟩) []
  | faulted {p rest fault} (call : KernelCall) {earlier : List Event} (hfine : ∀ event ∈ earlier, event.isFault = false)
      (hshort : (earlier.flatMap Event.answers).length < 4) :
      Course (p :: rest) (.error (.fault fault)) (earlier ++ [.fault call fault])
  | refused {p rest reason} {accepted : List Char} (value : Int32) (hbegins : accepted <+: (written value).toList) :
      Course (p :: rest) (.error (.output reason))
        (.answer (.fib (.ofNat p.1) value) :: accepted.map .accepted ++ [.refused reason])
  | mismatch {p rest} {t : Turn} (hat : t.comparison.IsAt p) (hfailed : t.comparison.failed = true) :
      Course (p :: rest) (.ok ⟨[t.value], some t.comparison⟩) t.events
  | next {p rest} {t : Turn} {result events} (hat : t.comparison.IsAt p) (hpassed : t.comparison.failed = false)
      (later : Course rest result events) :
      Course (p :: rest) (result.map fun o => { o with values := t.value :: o.values }) (t.events ++ events)

/-- A comparison has the answers of all three kernels; without one, the kernel behind the last answer has
    faulted. -/
def Compared (p : Nat × Int32) : Except Fault Comparison → List Event → Prop
  | .ok c, events => c.IsAt p ∧ events = c.answers.map .answer
  | .error fault, events => ∃ (answers : List Answer) (call : KernelCall),
      answers.length < 3 ∧ events = answers.map .answer ++ [.fault call fault]

section
variable (kernel : NumericKernel (StateM σ))

theorem notes_compareAt (p : Nat × Int32) :
    Notes notes (Compared p) (compareAt (kernel.noted notes) p.1 p.2).run (compareAt kernel p.1 p.2).run := by
  refine Notes.bind_run (notes_call ..) ?_ ?_
  · rintro fault _ rfl
    exact ⟨[], _, Nat.zero_lt_succ 2, rfl⟩
  rintro fib _ rfl
  refine Notes.bind_run (notes_call ..) ?_ ?_
  · rintro fault _ rfl
    exact ⟨[_], _, Nat.le_succ 2, rfl⟩
  rintro sqr _ rfl
  refine Notes.bind_run (notes_call ..) ?_ ?_
  · rintro fault _ rfl
    exact ⟨[_, _], _, Nat.le_refl 3, rfl⟩
  rintro ring _ rfl
  exact Notes.of_pure ⟨⟨rfl, rfl, rfl, rfl⟩, rfl⟩

theorem flatMap_answers_accepted (text : List Char) : (text.map Event.accepted).flatMap Event.answers = [] := by
  rw [List.flatMap_map]
  exact List.flatMap_eq_nil_iff.mpr fun _ _ => rfl

theorem flatMap_answers_answer (answers : List Answer) : (answers.map Event.answer).flatMap Event.answers = answers := by
  rw [List.flatMap_map]
  exact List.flatMap_singleton' answers

/-- What has happened in a run shows how the run went. -/
theorem notes_validateAll (sink : Sink (StateM σ)) (expected : List (Nat × Int32)) :
    Notes notes (Course expected) (validateAll (kernel.noted notes) (sink.noted notes) expected).run
      (validateAll kernel sink expected).run := by
  induction expected with
  | nil => exact Notes.of_pure .done
  | cons p rest ih =>
    refine Notes.bind_run ((notes_call ..).adapt Interruption.fault) ?_ ?_
    · rintro interruption _ ⟨_ | value, hraised, rfl⟩
      · cases hraised
        have hfine : ∀ event ∈ ([] : List Event), event.isFault = false := List.forall_mem_nil _
        exact .faulted _ hfine (Nat.zero_lt_succ 3)
      · cases hraised
    rintro value _ ⟨_ | value', hvalue, rfl⟩
    · cases hvalue
    cases hvalue
    refine Notes.bind_run ((notes_write notes sink _).adapt Interruption.output) ?_ ?_
    · rintro interruption _ ⟨_ | _, hraised, hsent⟩
      · cases hraised
        obtain ⟨accepted, hbegins, rfl⟩ := hsent
        exact .refused value hbegins
      · cases hraised
    rintro _ _ ⟨_ | _, hok, hsent⟩
    · cases hok
    subst hsent
    refine Notes.bind_run ((notes_compareAt notes kernel p).adapt Interruption.fault) ?_ ?_
    · rintro interruption _ ⟨_ | _, hraised, hcompared⟩
      · cases hraised
        obtain ⟨answers, call, hshort, rfl⟩ := hcompared
        rw [← List.append_assoc, ← List.append_assoc]
        refine .faulted call ?_ ?_
        · simp [Event.ofCall, or_imp, forall_and]
        · simp only [List.flatMap_append, flatMap_answers_accepted, flatMap_answers_answer, List.length_append]
          exact Nat.add_lt_add_left hshort 1
      · cases hraised
    rintro c _ ⟨_ | c', hc, hcompared⟩
    · cases hc
    cases hc
    obtain ⟨hat, rfl⟩ := hcompared
    have hevents : ∀ more, [Event.ofCall (.fib (.ofNat p.1)) (.fib (.ofNat p.1)) (.ok value)] ++
        ((written value).toList.map .accepted ++ [.flushed] ++ (c.answers.map .answer ++ more)) =
          (Turn.mk value c).events ++ more := fun more => by
      rw [Turn.events, hat.index, List.append_assoc, List.append_assoc]
      rfl
    cases hfailed : c.failed with
    | true =>
      refine Notes.of_pure ?_
      rw [hevents, List.append_nil]
      exact .mismatch (t := ⟨value, c⟩) hat hfailed
    | false =>
      refine Notes.bind_run ih ?_ ?_
      · intro interruption events hlater
        rw [hevents]
        exact .next (t := ⟨value, c⟩) hat hfailed hlater
      · intro outcome events hlater
        refine Notes.of_pure ?_
        rw [hevents, List.append_nil]
        exact .next (t := ⟨value, c⟩) hat hfailed hlater

/-- Writing everything down changes nothing about a run of the validator, and shows how it went. -/
theorem course_of_run (sink : Sink (StateM σ)) (s : σ) :
    let run := ((validate kernel.witnessed sink.witnessed).run.run []).run s
    (validate kernel sink).run.run s = (run.1.1, run.2) ∧ Course expectations run.1.1 run.1.2 := by
  intro run
  have hnotes := notes_validateAll (fun event => [event]) kernel sink expectations
  obtain ⟨events, hrun, hcourse⟩ := hnotes.run [] s
  have hrun' : run = _ := hrun
  rw [hrun', List.nil_append, List.flatMap_singleton']
  exact ⟨rfl, hcourse⟩

end

/-! ### Sweeps -/

section
variable (answer : Nat × Int32 → α → Answer) (expected : Nat × Int32 → α)

/-- How a sweep over some indices ended before what agrees was left out, and what happened in it. -/
inductive Swept : List (Nat × Int32) → Except Fault (List (Deviation α)) → List Event → Prop where
  | done : Swept [] (.ok []) []
  | faulted {p rest fault} (call : KernelCall) : Swept (p :: rest) (.error fault) [.fault call fault]
  | next {p rest result events} (value : α) (later : Swept rest result events) :
      Swept (p :: rest) (result.map fun ds => ⟨p.1, value, expected p⟩ :: ds) (.answer (answer p value) :: events)

variable (call : Nat × Int32 → KernelCall) (ask : Nat × Int32 → Faulty (StateM σ) α)

theorem notes_deviations (ps : List (Nat × Int32)) :
    Notes notes (Swept answer expected ps)
      (ps.mapM fun p => return (⟨p.1, ← notedCall notes (call p) (answer p) (ask p), expected p⟩ : Deviation α)).run
      (ps.mapM fun p => return (⟨p.1, ← ask p, expected p⟩ : Deviation α)).run := by
  induction ps with
  | nil => exact Notes.of_pure .done
  | cons p rest ih =>
    rw [List.mapM_cons, List.mapM_cons, bind_assoc, bind_assoc]
    refine Notes.bind_run (notes_call ..) ?_ ?_
    · rintro fault _ rfl
      exact .faulted _
    rintro value _ rfl
    rw [pure_bind, pure_bind]
    refine Notes.bind_run ih ?_ ?_
    · intro fault events hlater
      exact .next value hlater
    · intro ds events hlater
      have hnext := Swept.next (p := p) value hlater
      rw [← List.append_nil events] at hnext
      exact Notes.of_pure hnext

/-- A sweep is what is left of the deviations when those that agree are left out. -/
theorem notes_sweep (keep : Deviation α → Bool) :
    Notes notes (fun r events => ∃ result, Swept answer expected expectations result events ∧ r = result.map (·.filter keep))
      (do
        let all ← expectations.mapM fun p =>
          return (⟨p.1, ← notedCall notes (call p) (answer p) (ask p), expected p⟩ : Deviation α)
        pure (all.filter keep) : Faulty (StateT (List τ) (StateM σ)) _).run
      (do
        let all ← expectations.mapM fun p => return (⟨p.1, ← ask p, expected p⟩ : Deviation α)
        pure (all.filter keep) : Faulty (StateM σ) _).run := by
  refine Notes.bind_run (notes_deviations notes answer expected call ask expectations) ?_ ?_
  · intro fault events hswept
    exact ⟨_, hswept, rfl⟩
  · intro ds events hswept
    rw [← List.append_nil events] at hswept
    exact Notes.of_pure ⟨_, hswept, rfl⟩

end

/-! ### Uses of the kernels -/

/-- The fault in an interruption, if that is what it was. -/
def Interruption.fault? : Interruption → Option Fault
  | .fault raised => some raised
  | .output _ => none

theorem accounts_uses_of_fine {events : List Event} (h : ∀ event ∈ events, event.isFault = false) :
    Accounts (events.flatMap Event.uses) none := by
  intro use huse
  obtain ⟨event, hevent, huse⟩ := List.mem_flatMap.mp huse
  cases event with
  | answer a =>
    obtain rfl := List.mem_singleton.mp huse
    rfl
  | fault call f => cases h _ hevent
  | accepted _ | flushed | refused _ => cases huse

theorem isFault_of_mem_events {t : Turn} : ∀ event ∈ t.events, event.isFault = false := by
  simp [Turn.events, or_imp, forall_and]

/-- The kernels that are called in a run of the validator account for the fault it ends with. -/
theorem Course.accounts {expected : List (Nat × Int32)} {result : Except Interruption Outcome} {events : List Event}
    (h : Course expected result events) : Accounts (events.flatMap Event.uses) (faultIn Interruption.fault? result) := by
  induction h with
  | done => exact accounts_nil
  | faulted call hfine hshort =>
    rw [List.flatMap_append]
    exact (accounts_uses_of_fine hfine).append (accounts_singleton ..)
  | refused value hbegins => exact accounts_uses_of_fine (by simp [or_imp, forall_and])
  | mismatch hat hfailed => exact accounts_uses_of_fine isFault_of_mem_events
  | @next p rest t result events hat hpassed later ih =>
    rw [List.flatMap_append]
    refine (accounts_uses_of_fine isFault_of_mem_events).append ?_
    cases result <;> exact ih

theorem Swept.accounts {answer : Nat × Int32 → α → Answer} {expected : Nat × Int32 → α} {ps : List (Nat × Int32)}
    {result : Except Fault (List (Deviation α))} {events : List Event} (h : Swept answer expected ps result events) :
    Accounts (events.flatMap Event.uses) (faultIn some result) := by
  induction h with
  | done => exact accounts_nil
  | faulted call => exact accounts_singleton ..
  | @next p rest result events value later ih =>
    rw [List.flatMap_cons]
    refine (accounts_singleton _ none).append ?_
    cases result <;> exact ih

end Numeric

end KernelAudit
