import KernelAudit.Proofs.Numeric.Halting

/-! Where the sink ends a run of the numeric validator. A value is written before anything else happens at its
    index, so at any time the sink has taken a part of the texts of the values asked for so far, from the first
    one on. A run that the sink ends has come through all indices before, with their whole texts taken and their
    comparisons passed, and has made one call more. -/

namespace KernelAudit.Numeric

/-! ### What was to be written -/

/-- The first of every two elements. -/
def everyOther {α : Type} : List α → List α
  | a :: _ :: rest => a :: everyOther rest
  | short => short

theorem everyOther_cons {α : Type} (a : α) (l : List α) : everyOther (a :: l) = a :: everyOther l.tail := by
  cases l <;> rfl

def Event.fib? : Event → Option Int32
  | .answer (.fib _ value) => some value
  | _ => none

/-- The values of the first calls of `fib`, of which there are two at each index: the one is written, the other
    is compared. -/
def firstValues (events : List Event) : List Int32 := everyOther (events.filterMap Event.fib?)

/-- The text of some values, each followed by a space. -/
def textOf (values : List Int32) : List Char := values.flatMap fun value => (written value).toList

theorem filterMap_fib_events (t : Turn) : t.events.filterMap Event.fib? = [t.value, t.comparison.fib] := by
  have hchars : ((written t.value).toList.map Event.accepted).filterMap Event.fib? = [] := by
    rw [List.filterMap_map, List.filterMap_eq_nil_iff]
    exact fun _ _ => rfl
  rw [Turn.events, List.cons_append, List.filterMap_cons, List.filterMap_append, hchars]
  rfl

theorem firstValues_events (t : Turn) (events : List Event) :
    firstValues (t.events ++ events) = t.value :: firstValues events := by
  rw [firstValues, List.filterMap_append, filterMap_fib_events]
  rfl

theorem accepted_prefix_of_begun {index value : Int32} {events seen : List Event}
    (h : events.filterMap Event.accepted? <+: (written value).toList)
    (hseen : seen <+: .answer (.fib index value) :: events) :
    seen.filterMap Event.accepted? <+: textOf (firstValues seen) := by
  cases seen with
  | nil => exact List.nil_prefix
  | cons event seen =>
    obtain ⟨rfl, hseen⟩ := List.cons_prefix_cons.mp hseen
    -- The value is asked for before anything of its text is taken, so it is there however early `seen` ends.
    have hvalues : firstValues (.answer (.fib index value) :: seen) = value :: everyOther (seen.filterMap Event.fib?).tail :=
      everyOther_cons value _
    rw [hvalues, textOf, List.flatMap_cons]
    exact ((hseen.filterMap Event.accepted?).trans h).trans (List.prefix_append _ _)

theorem accepted_prefix_of_turn {t : Turn} {seen : List Event} (hseen : seen <+: t.events) :
    seen.filterMap Event.accepted? <+: textOf (firstValues seen) :=
  accepted_prefix_of_begun ((filterMap_events t).symm ▸ List.prefix_rfl) hseen

/-! ### Runs that the sink ends -/

theorem refused_not_mem_events {t : Turn} {reason : String} : Event.refused reason ∉ t.events := by
  simp [Turn.events, Comparison.answers]

section
variable {expected : List (Nat × Int32)} {result : Except Interruption Outcome} {events : List Event}

/-- At any time of a run, what the sink has taken begins the text of the values that were asked for first. -/
theorem Course.accepted_prefix (h : Course expected result events) (hok : ∀ event ∈ events, event.isFault = false)
    {seen : List Event} (hseen : seen <+: events) : seen.filterMap Event.accepted? <+: textOf (firstValues seen) := by
  induction h generalizing seen with
  | done =>
    obtain rfl := List.prefix_nil.mp hseen
    exact List.nil_prefix
  | faulted call hfine hshort => cases hok _ (List.mem_append_right _ (List.mem_singleton_self _))
  | @refused p rest reason accepted value hbegins =>
    refine accepted_prefix_of_begun ?_ hseen
    show (accepted.map Event.accepted ++ [Event.refused reason]).filterMap Event.accepted? <+: _
    rw [List.filterMap_append, filterMap_accepted]
    exact (List.append_nil accepted).symm ▸ hbegins
  | mismatch hat hfailed => exact accepted_prefix_of_turn hseen
  | @next p rest t result events hat hpassed later ih =>
    -- The time is within this turn, or the turn is over and its text was taken whole.
    rcases List.prefix_or_prefix_of_prefix hseen (List.prefix_append t.events events) with hturn | ⟨seen, rfl⟩
    · exact accepted_prefix_of_turn hturn
    · have hlater := ih (fun event hevent => hok event (List.mem_append_right _ hevent))
        ((List.prefix_append_right_inj _).mp hseen)
      rw [firstValues_events, List.filterMap_append, filterMap_events, textOf, List.flatMap_cons]
      exact (List.prefix_append_right_inj _).mpr hlater

/-- If the sink refuses, the run ends there: all turns before it pass, and of the next one there is a value that
    was accepted up to some place. -/
theorem Course.exists_refusal (h : Course expected result events) (hok : ∀ event ∈ events, event.isFault = false)
    {reason : String} (hrefused : .refused reason ∈ events) :
    ∃ turns p value accepted, result = .error (.output reason) ∧ expected[turns.length]? = some p ∧
      accepted <+: (written value).toList ∧
      events = turns.flatMap Turn.events ++
        (.answer (.fib (.ofNat p.1) value) :: accepted.map .accepted ++ [.refused reason]) ∧
      List.Forall₂ (fun t p => t.comparison.IsAt p) turns (expected.take turns.length) ∧
      ∀ t ∈ turns, t.comparison.failed = false := by
  induction h with
  | done => cases hrefused
  | faulted call hfine hshort => cases hok _ (List.mem_append_right _ (List.mem_singleton_self _))
  | @refused p rest reason' accepted value hbegins =>
    obtain rfl : reason = reason' := by simpa using hrefused
    exact ⟨[], p, value, accepted, rfl, rfl, hbegins, rfl, .nil, nofun⟩
  | mismatch hat hfailed => exact absurd hrefused refused_not_mem_events
  | @next p rest t result events hat hpassed later ih =>
    obtain ⟨turns, q, value, accepted, rfl, hq, hbegins, rfl, hats, hpass⟩ :=
      ih (fun event hevent => hok event (List.mem_append_right _ hevent))
        ((List.mem_append.mp hrefused).resolve_left refused_not_mem_events)
    exact ⟨t :: turns, q, value, accepted, rfl, hq, hbegins, (List.append_assoc ..).symm, .cons hat hats,
      List.forall_mem_cons.mpr ⟨hpassed, hpass⟩⟩

theorem Course.exists_ok (h : Course expected result events) (hok : ∀ event ∈ events, event.isFault = false)
    (hnone : ∀ reason, .refused reason ∉ events) : ∃ outcome, result = .ok outcome := by
  have hfine : ∀ event ∈ events, event.isFailure = false := by
    intro event hevent
    cases event with
    | fault call fault => exact hok _ hevent
    | refused reason => exact absurd hevent (hnone reason)
    | answer _ | accepted _ | flushed => rfl
  obtain ⟨turns, mismatch, hresult, -⟩ := h.exists_turns hfine
  exact ⟨_, hresult⟩

theorem Course.error_iff (h : Course expected result events) (hok : ∀ event ∈ events, event.isFault = false)
    {interruption : Interruption} :
    result = .error interruption ↔ ∃ reason, interruption = .output reason ∧ .refused reason ∈ events := by
  constructor
  · rintro rfl
    by_cases hany : ∃ reason, .refused reason ∈ events
    · obtain ⟨reason, hrefused⟩ := hany
      obtain ⟨_, _, _, _, hresult, -⟩ := h.exists_refusal hok hrefused
      exact ⟨reason, Except.error.inj hresult, hrefused⟩
    · obtain ⟨outcome, houtcome⟩ := h.exists_ok hok (not_exists.mp hany)
      cases houtcome
  · rintro ⟨reason, rfl, hrefused⟩
    obtain ⟨_, _, _, _, hresult, -⟩ := h.exists_refusal hok hrefused
    exact hresult

end

/-- The run was ended by the sink behind the given turns. They are those of the indices before, and pass; the
    value of the index that is reached is accepted up to some place, and nothing happens any more. -/
structure EndedBy (reason : String) (turns : List Turn) (events : List Event) : Prop where
  index_lt : turns.length < 10
  isAt : List.Forall₂ (fun t p => t.comparison.IsAt p) turns (expectations.take turns.length)
  passes : ∀ t ∈ turns, ¬t.comparison.Deviates
  events_eq : ∃ value accepted, accepted <+: (written value).toList ∧ events = turns.flatMap Turn.events ++
    (Event.answer (.fib (.ofNat turns.length) value) :: accepted.map .accepted ++ [.refused reason])
  text_prefix : textOf (turns.map Turn.value) <+: events.filterMap Event.accepted?
  fib : events.countP Event.isFib = 2 * turns.length + 1
  sqr : events.countP Event.isSqr = turns.length
  ring : events.countP Event.isRing = turns.length

/-- Behind the turns that pass there is one call more. -/
theorem countP_cut {q : Event → Bool} (hq : ∀ c, q (.accepted c) = false) (earlier : List Event) (first last : Event)
    (accepted : List Char) : (earlier ++ (first :: accepted.map .accepted ++ [last])).countP q =
      earlier.countP q + [first, last].countP q := by
  rw [List.countP_append, List.countP_append, List.countP_cons, countP_accepted hq, Nat.zero_add, List.countP_cons (a := first),
    Nat.add_comm (List.countP q [last])]

theorem Course.endedBy_of_refused {result : Except Interruption Outcome} {events : List Event}
    (h : Course expectations result events) (hok : ∀ event ∈ events, event.isFault = false) {reason : String}
    (hrefused : .refused reason ∈ events) : ∃ turns, EndedBy reason turns events := by
  obtain ⟨turns, p, value, accepted, -, hp, hbegins, rfl, hats, hpass⟩ := h.exists_refusal hok hrefused
  obtain ⟨hlt, rfl⟩ := List.getElem?_eq_some_iff.mp hp
  have hcalls := callsMade_events turns
  refine ⟨turns, hlt, hats, fun t ht => Comparison.not_deviates_iff.mpr (hpass t ht),
    ⟨value, accepted, hbegins, by rw [fst_getElem_expectations]⟩, ?_, ?_, ?_, ?_⟩
  · rw [List.filterMap_append, List.filterMap_flatMap, textOf, List.flatMap_map, funext filterMap_events]
    exact List.prefix_append _ _
  · rw [countP_cut (fun _ => rfl), hcalls.fib]
    rfl
  · rw [countP_cut (fun _ => rfl), hcalls.sqr]
    rfl
  · rw [countP_cut (fun _ => rfl), hcalls.ring]
    rfl

/-- The numeric validator on any kernels that do not fault in the run, and any sink, which takes a text character
    by character and so may refuse it at any place, or fail to flush it. At any time the characters it has taken
    begin the text of the values of the first calls of `fib`. The run comes back with an error exactly if the sink
    refused, and the error, one of input and output, gives its reason. If it refused at some index, all indices
    before have passed and their texts are taken whole; `fib` was called twice at each of them and once more, the
    others once at each. -/
theorem validate_halts_at_refusal {σ : Type} (kernel : NumericKernel (StateM σ)) (sink : Sink (StateM σ)) (s : σ) :
    let run := ((validate kernel.witnessed sink.witnessed).run.run []).run s
    let events := run.1.2
    (validate kernel sink).run.run s = (run.1.1, run.2) ∧
    ((∀ event ∈ events, event.isFault = false) →
      (∀ seen, seen <+: events → seen.filterMap Event.accepted? <+: textOf (firstValues seen)) ∧
      (∀ interruption, run.1.1 = .error interruption ↔
        ∃ reason, interruption = .output reason ∧ .refused reason ∈ events) ∧
      ∀ reason, .refused reason ∈ events → ∃ turns, EndedBy reason turns events) ∧
    ∀ reason, Interruption.error reason = .io "validate_numeric" reason := by
  intro run events
  obtain ⟨hrun, hcourse⟩ := course_of_run kernel sink s
  exact ⟨hrun, fun hok => ⟨fun seen hseen => hcourse.accepted_prefix hok hseen,
    fun interruption => hcourse.error_iff hok, fun reason hrefused => hcourse.endedBy_of_refused hok hrefused⟩,
    fun _ => rfl⟩

/-- A sink that has room for so many characters. -/
def limited : Sink (StateM Nat) where
  put _ := ExceptT.mk fun room => match room with
    | 0 => (.error "full", 0)
    | room + 1 => (.ok (), room)
  flush := pure ()

/-- The room ends between the value at the index 6 and its space. -/
theorem validate_halts_at_refusal_sample :
    let run := ((validate Reference.numeric.witnessed limited.witnessed).run.run []).run 14
    (∀ event ∈ run.1.2, event.isFault = false) ∧ .refused "full" ∈ run.1.2 ∧
      run.1.1 = .error (.output "full") ∧ run.1.2.filterMap Event.accepted? = "1 1 2 3 5 8 13".toList ∧
      ∃ turns, EndedBy "full" turns run.1.2 ∧ turns.length = 6 := by
  obtain ⟨-, hrun, -⟩ := validate_halts_at_refusal Reference.numeric limited 14
  dsimp only
  set run := ((validate Reference.numeric.witnessed limited.witnessed).run.run []).run 14
  have hok : ∀ event ∈ run.1.2, event.isFault = false := by decide +kernel
  have hrefused : .refused "full" ∈ run.1.2 := by decide +kernel
  have hcalls : run.1.2.countP Event.isFib = 13 := by decide +kernel
  obtain ⟨-, herror, hended⟩ := hrun hok
  obtain ⟨turns, hturns⟩ := hended "full" hrefused
  have hfib := hturns.fib
  exact ⟨hok, hrefused, (herror _).mpr ⟨"full", rfl, hrefused⟩, by decide +kernel, turns, hturns, by omega⟩

end KernelAudit.Numeric
