import KernelAudit.Proofs.Sorting.Agreement

/-! The course of a run of trials. Any kernel may be asked, one that remembers, answers differently from
    call to call or writes what it likes; with notes about its uses, each with the buffer it left, a run does
    what it did before, and the uses show how it went (`Course`). Every use is a trial and gets the next block
    of the drawn values; the first output that is objected to ends the run and is what the outcome reports. -/

namespace KernelAudit

namespace Sorting

/-! ### The first descent -/

/-- No adjacent pair of the buffer before this one is out of order. -/
structure Descent.IsFirst (d : Descent) (buffer : Buffer) : Prop where
  least : IsLeast {j | ∃ h : j + 1 < buffer.size, buffer[j + 1] < buffer[j]} d.index
  left : buffer[d.index]? = some d.left
  right : buffer[d.index + 1]? = some d.right

theorem Descent.IsFirst.unique {d d' : Descent} {buffer : Buffer} (h : d.IsFirst buffer) (h' : d'.IsFirst buffer) :
    d = d' := by
  obtain ⟨index, left, right⟩ := d
  obtain ⟨index', left', right'⟩ := d'
  obtain rfl : index = index' := h.least.unique h'.least
  obtain rfl : left = left' := Option.some.inj (h.left.symm.trans h'.left)
  obtain rfl : right = right' := Option.some.inj (h.right.symm.trans h'.right)
  rfl

theorem firstDescentFrom_eq_some {index : Nat} {values : List Int32} {d : Descent}
    (h : firstDescentFrom index values = some d) : ∃ j, d.index = index + j ∧
      values[j]? = some d.left ∧ values[j + 1]? = some d.right ∧ d.right < d.left ∧
      ∀ i < j, ∀ left right, values[i]? = some left → values[i + 1]? = some right → ¬right < left := by
  fun_induction firstDescentFrom index values with
  | case1 index left right rest hlt =>
    cases h
    exact ⟨0, rfl, rfl, rfl, hlt, fun i hi => absurd hi i.not_lt_zero⟩
  | case2 index left right rest hge ih =>
    obtain ⟨j, hindex, hleft, hright, hlt, hbefore⟩ := ih h
    refine ⟨j + 1, by omega, hleft, hright, hlt, fun i hi left' right' hl hr => ?_⟩
    cases i with
    | zero =>
      cases hl
      cases hr
      exact hge
    | succ i => exact hbefore i (by omega) left' right' hl hr
  | case3 => cases h

theorem isFirst_of_firstDescent {buffer : Buffer} {d : Descent} (h : firstDescent buffer = some d) :
    d.IsFirst buffer := by
  obtain ⟨j, hindex, hleft, hright, hlt, hbefore⟩ := firstDescentFrom_eq_some h
  obtain rfl : d.index = j := by omega
  simp only [Array.getElem?_toList] at hleft hright hbefore
  obtain ⟨hsize, hvalue⟩ := Array.getElem?_eq_some_iff.mp hright
  obtain ⟨_, hvalue'⟩ := Array.getElem?_eq_some_iff.mp hleft
  refine ⟨⟨⟨hsize, by rwa [hvalue, hvalue']⟩, ?_⟩, hleft, hright⟩
  rintro i ⟨hi, hdescent⟩
  refine Nat.le_of_not_lt fun hlt' => hbefore i hlt' _ _ ?_ ?_ hdescent
  · exact Array.getElem?_eq_getElem (by omega)
  · exact Array.getElem?_eq_getElem hi

/-! ### Runs of trials -/

section
variable {ρ : Type} [Source ρ]

/-- How the kernel is called in a trial: on the next block of values, over the whole buffer. -/
def trialCall (length : Nat) (source : ρ) (trial : Nat) : SortCall :=
  ⟨input length source trial, 0, lastIndex length⟩

variable {β : Type} {judge : (trial : Nat) → (input output : Buffer) → Option β}

/-- How the next `remaining` trials went, the first of them having the number `trial`, and how the kernel was
    used in them. -/
inductive Course (judge : (trial : Nat) → (input output : Buffer) → Option β) (length : Nat) (source : ρ) :
    (remaining trial : Nat) → Except Fault (Option β × Nat × ρ) → List SortUse → Prop where
  | done {trial} :
      Course judge length source 0 trial (.ok (none, trial, Source.after (trial * length) source)) []
  | faulted {remaining trial} (fault : Fault) :
      Course judge length source (remaining + 1) trial (.error fault) [⟨trialCall length source trial, .error fault⟩]
  | objected {remaining trial output objection} (hjudge : judge trial (input length source trial) output = some objection) :
      Course judge length source (remaining + 1) trial
        (.ok (some objection, trial + 1, Source.after ((trial + 1) * length) source))
        [⟨trialCall length source trial, .ok output⟩]
  | next {remaining trial output result uses} (hjudge : judge trial (input length source trial) output = none)
      (later : Course judge length source remaining (trial + 1) result uses) :
      Course judge length source (remaining + 1) trial result (⟨trialCall length source trial, .ok output⟩ :: uses)

/-- The uses of the kernel account for the fault that the trials ended with. -/
theorem Course.accounts {length : Nat} {source : ρ} {remaining trial : Nat}
    {result : Except Fault (Option β × Nat × ρ)} {uses : List SortUse}
    (h : Course judge length source remaining trial result uses) :
    Accounts (uses.flatMap SortUse.uses) (faultIn some result) := by
  induction h with
  | done => exact accounts_nil
  | faulted fault => exact accounts_singleton ..
  | objected hjudge => exact accounts_singleton ..
  | next hjudge later ih => exact (accounts_singleton _ none).append ih

variable {σ τ : Type} (notes : SortUse → List τ) (kernel : SortKernel (StateM σ))

theorem notes_sortBuffer (b : Buffer) :
    Notes notes (fun outcome uses => uses = [⟨⟨b, 0, lastIndex b.size⟩, outcome⟩])
      ((kernel.noted notes).sortBuffer b).run (kernel.sortBuffer b).run := by
  rw [SortKernel.run_sortBuffer_noted]
  exact Notes.noted fun _ => rfl

/-- The uses of the kernel show how the trials went. -/
theorem notes_trialsUntil (length : Nat) (source : ρ) (remaining trial : Nat) :
    Notes notes (Course judge length source remaining trial)
      (trialsUntil judge (kernel.noted notes) length remaining trial (Source.after (trial * length) source)).run
      (trialsUntil judge kernel length remaining trial (Source.after (trial * length) source)).run := by
  induction remaining generalizing trial with
  | zero => exact Notes.of_pure .done
  | succ remaining ih =>
    rw [trialsUntil, trialsUntil, fill_after]
    have hcall : (⟨input length source trial, 0, lastIndex (input length source trial).size⟩ : SortCall) =
        trialCall length source trial := by rw [size_input, trialCall]
    refine Notes.bind_run (notes_sortBuffer notes kernel (input length source trial)) ?_ ?_
    · rintro fault _ rfl
      rw [hcall]
      exact .faulted fault
    rintro output _ rfl
    rw [hcall]
    cases hjudge : judge trial (input length source trial) output with
    | some objection => exact Notes.of_pure (.objected hjudge)
    | none => exact (ih (trial + 1)).mono fun _ _ later => .next hjudge later

theorem notes_trials (length : Nat) (source : ρ) (trials : Nat) :
    Notes notes (Course judge length source trials 0) (trialsUntil judge (kernel.noted notes) length trials 0 source).run
      (trialsUntil judge kernel length trials 0 source).run := by
  have hnotes : Notes notes (Course judge length source trials 0) _ _ := notes_trialsUntil notes kernel length source trials 0
  rwa [Nat.zero_mul, Source.after] at hnotes

theorem notes_validate (config : Config) (source : ρ) :
    Notes notes (fun r uses => ∃ result, Course violation? config.bufferLen source config.trials 0 result uses ∧
        r = result.map fun r => (⟨r.2.1, r.1⟩, r.2.2))
      (validate (kernel.noted notes) config source).run (validate kernel config source).run := by
  rw [validate, validate, runTrials_eq_trialsUntil, runTrials_eq_trialsUntil, ExceptT.run_map, ExceptT.run_map]
  exact (notes_trials ..).map fun result _ hcourse => ⟨result, hcourse, rfl⟩

theorem notes_findLoss (config : Config) (source : ρ) :
    Notes notes (fun r uses => ∃ result, Course loss? config.bufferLen source config.trials 0 result uses ∧
        r = result.map fun r => (r.1, r.2.2))
      (findLoss (kernel.noted notes) config source).run (findLoss kernel config source).run := by
  rw [findLoss, findLoss, searchTrials_eq_trialsUntil, searchTrials_eq_trialsUntil, ExceptT.run_map, ExceptT.run_map]
  exact (notes_trials ..).map fun result _ hcourse => ⟨result, hcourse, rfl⟩

end

/-! ### What a run reports -/

/-- The elements are in nondecreasing order from the first to the last. -/
def InOrder (buffer : Buffer) : Prop := buffer.toList.Pairwise (· ≤ ·)

theorem inOrder_iff {buffer : Buffer} : InOrder buffer ↔ firstDescent buffer = none := firstDescent_eq_none_iff.symm

theorem not_inOrder_of_firstDescent {buffer : Buffer} {d : Descent} (h : firstDescent buffer = some d) :
    ¬InOrder buffer := by
  rw [inOrder_iff, h]
  exact nofun

/-- The outcome reports the first output that is out of order, with its first descent, and counts the trials
    up to that one, or all of them if there is none. -/
structure Judged (trials : Nat) (outputs : List Buffer) (outcome : Outcome) : Prop where
  count : outputs.length = outcome.trialsRun
  passed_iff : outcome.violation = none ↔ ∀ output ∈ outputs, InOrder output
  violation_iff : ∀ v, outcome.violation = some v ↔
    IsLeast {t | ∃ h : t < outputs.length, ¬InOrder outputs[t]} v.trial ∧
      ∃ h : v.trial < outputs.length, v.descent.IsFirst outputs[v.trial]
  trialsRun_eq : outcome.trialsRun = match outcome.violation with
    | some v => v.trial + 1
    | none => trials

theorem judged_of_inOrder {outputs : List Buffer} (h : ∀ output ∈ outputs, InOrder output) :
    Judged outputs.length outputs ⟨outputs.length, none⟩ := by
  refine ⟨rfl, iff_of_true rfl h, fun v => iff_of_false nofun ?_, rfl⟩
  rintro ⟨⟨⟨_, hdisorder⟩, -⟩, -⟩
  exact hdisorder (h _ (List.getElem_mem _))

theorem judged_of_disorder {earlier : List Buffer} {last : Buffer} {d : Descent} {trials : Nat}
    (h : ∀ output ∈ earlier, InOrder output) (hfirst : firstDescent last = some d) :
    Judged trials (earlier ++ [last]) ⟨earlier.length + 1, some ⟨earlier.length, d⟩⟩ := by
  have hlast : ∀ hlt : earlier.length < (earlier ++ [last]).length, (earlier ++ [last])[earlier.length] = last :=
    fun _ => List.getElem_concat_length rfl _
  have hleast := isLeast_append_singleton (fun output houtput => not_not.mpr (h output houtput))
    (not_inOrder_of_firstDescent hfirst)
  refine ⟨by simp, iff_of_false nofun fun hall => ?_, fun v => ?_, rfl⟩
  · exact not_inOrder_of_firstDescent hfirst (hall last (by simp))
  · constructor
    · rintro ⟨⟩
      refine ⟨hleast, by simp, ?_⟩
      rw [hlast]
      exact isFirst_of_firstDescent hfirst
    · rintro ⟨hleast', hlt, hdescent⟩
      obtain ⟨trial, descent⟩ := v
      obtain rfl : trial = earlier.length := hleast'.unique hleast
      rw [hlast] at hdescent
      obtain rfl := hdescent.unique (isFirst_of_firstDescent hfirst)
      rfl

section
variable {ρ : Type} [Source ρ] {length : Nat} {source : ρ}

/-- The trials of a run in which every use of the kernel returned: all outputs but the last are in order, and
    the last one too if it is that of the last trial. -/
theorem Course.exists_outputs {remaining trial : Nat} {result : Except Fault (Option Violation × Nat × ρ)}
    {uses : List SortUse} (h : Course violation? length source remaining trial result uses)
    (hok : ∀ use ∈ uses, use.outcome.isOk = true) :
    ∃ (outputs : List Buffer) (outcome : Outcome),
      result = .ok (outcome.violation, outcome.trialsRun, Source.after (outcome.trialsRun * length) source) ∧
      uses = outputs.mapIdx (fun t output => ⟨trialCall length source (trial + t), .ok output⟩) ∧
      (outputs.length = remaining ∧ (∀ output ∈ outputs, InOrder output) ∧ outcome = ⟨trial + remaining, none⟩ ∨
        ∃ earlier last descent, outputs = earlier ++ [last] ∧ (∀ output ∈ earlier, InOrder output) ∧
          firstDescent last = some descent ∧
          outcome = ⟨trial + earlier.length + 1, some ⟨trial + earlier.length, descent⟩⟩) := by
  induction h with
  | @done trial => exact ⟨[], ⟨trial, none⟩, rfl, rfl, Or.inl ⟨rfl, nofun, rfl⟩⟩
  | faulted fault => cases hok _ List.mem_cons_self
  | @objected remaining trial output violation hjudge =>
    obtain ⟨descent, hfirst, rfl⟩ := Option.map_eq_some_iff.mp hjudge
    exact ⟨[output], ⟨trial + 1, some ⟨trial, descent⟩⟩, rfl, rfl, Or.inr ⟨[], output, descent, rfl, nofun, hfirst, rfl⟩⟩
  | @next remaining trial output result uses hjudge later ih =>
    have hnone : firstDescent output = none := Option.map_eq_none_iff.mp hjudge
    obtain ⟨outputs, outcome, hresult, huses, hjudged⟩ := ih fun use huse => hok use (List.mem_cons_of_mem _ huse)
    refine ⟨output :: outputs, outcome, hresult, ?_, ?_⟩
    · rw [huses, List.mapIdx_cons]
      simp only [Nat.add_assoc, Nat.add_comm 1, Nat.add_zero]
    · rcases hjudged with ⟨hlength, hall, rfl⟩ | ⟨earlier, last, descent, rfl, hearlier, hfirst, rfl⟩
      · refine Or.inl ⟨congrArg (· + 1) hlength, List.forall_mem_cons.mpr ⟨inOrder_iff.mpr hnone, hall⟩, ?_⟩
        simp only [Nat.add_assoc, Nat.add_comm 1]
      · refine Or.inr ⟨output :: earlier, last, descent, rfl,
          List.forall_mem_cons.mpr ⟨inOrder_iff.mpr hnone, hearlier⟩, hfirst, ?_⟩
        simp only [List.length_cons, Nat.add_assoc, Nat.add_comm 1]

theorem Course.exists_judged {trials : Nat} {result : Except Fault (Option Violation × Nat × ρ)} {uses : List SortUse}
    (h : Course violation? length source trials 0 result uses) (hok : ∀ use ∈ uses, use.outcome.isOk = true) :
    ∃ (outputs : List Buffer) (outcome : Outcome),
      result = .ok (outcome.violation, outcome.trialsRun, Source.after (outcome.trialsRun * length) source) ∧
      uses = outputs.mapIdx (fun t output => ⟨trialCall length source t, .ok output⟩) ∧
      Judged trials outputs outcome := by
  obtain ⟨outputs, outcome, hresult, huses, hjudged⟩ := h.exists_outputs hok
  simp only [Nat.zero_add] at huses hjudged
  refine ⟨outputs, outcome, hresult, huses, ?_⟩
  rcases hjudged with ⟨rfl, hall, rfl⟩ | ⟨earlier, last, descent, rfl, hearlier, hfirst, rfl⟩
  · exact judged_of_inOrder hall
  · exact judged_of_disorder hearlier hfirst

end

/-- The sort validator on any kernel and any source, in a run in which no use of the kernel faults. The kernel
    is used once in each trial that is counted, on the next block of drawn values, none of them negative, and
    from the first to the last index of it. The run is judged by what these uses left: the first output out of
    order is reported with its first descent, and nothing is drawn or called after it. -/
theorem validate_judges_outputs {σ ρ : Type} [Source ρ] (kernel : SortKernel (StateM σ)) (config : Config)
    (source : ρ) (s : σ) (hl : config.bufferLen ≤ Config.maxLength) :
    let run := ((validate kernel.transcribed config source).run.run []).run s
    let length := config.bufferLen
    (validate kernel config source).run.run s = (run.1.1, run.2) ∧
    (lastIndex length).toInt = length - 1 ∧
    (∀ t, (input length source t).size = length ∧ ∀ value ∈ input length source t, 0 ≤ value) ∧
    ((∀ use ∈ run.1.2, use.outcome.isOk = true) →
      ∃ outputs outcome, run.1.1 = .ok (outcome, Source.after (outcome.trialsRun * length) source) ∧
        run.1.2 = outputs.mapIdx (fun t output => ⟨⟨input length source t, 0, lastIndex length⟩, .ok output⟩) ∧
        Judged config.trials outputs outcome) := by
  intro run length
  obtain ⟨uses, hrun, result, hcourse, hresult⟩ :=
    (notes_validate (fun use => [use]) kernel config source).run [] s
  have hrun' : run = _ := hrun
  rw [hrun', List.nil_append, List.flatMap_singleton']
  refine ⟨rfl, toInt_lastIndex hl, fun t => ⟨size_input .., fun _ => nonneg_of_mem_input⟩, fun hok => ?_⟩
  obtain ⟨outputs, outcome, hok, huses, hjudged⟩ := hcourse.exists_judged hok
  exact ⟨outputs, outcome, hresult.trans (hok ▸ rfl), huses, hjudged⟩

/-- A source that counts. -/
structure Counting where
  next : Nat

instance : Source Counting where
  draw r := (⟨Int32.ofNat (r.next % 2 ^ 31), Source.nonneg_ofNat_mod _⟩, ⟨r.next + 1⟩)

/-- A kernel that leaves two buffers as they are and reverses those that come after. -/
def wearySort : SortKernel (StateM Nat) where
  sort _ _ := ExceptT.mk fun buffer used => ((.ok (), if used < 2 then buffer else buffer.reverse), used + 1)

/-- Of five trials the third is the last. -/
theorem validate_judges_outputs_sample :
    let run := ((validate wearySort.transcribed ⟨5, 3, none⟩ (⟨0⟩ : Counting)).run.run []).run 0
    3 ≤ Config.maxLength ∧ (∀ use ∈ run.1.2, use.outcome.isOk = true) ∧
      ∃ outputs outcome, Judged 5 outputs outcome ∧ outcome = ⟨3, some ⟨2, ⟨0, 8, 7⟩⟩⟩ := by
  intro run
  have hlength : 3 ≤ Config.maxLength := by decide
  have hok : ∀ use ∈ run.1.2, use.outcome.isOk = true := by decide +kernel
  have houtcome : run.1.1.toOption.map Prod.fst = some ⟨3, some ⟨2, ⟨0, 8, 7⟩⟩⟩ := by decide +kernel
  obtain ⟨-, -, -, hjudged⟩ := validate_judges_outputs wearySort ⟨5, 3, none⟩ (⟨0⟩ : Counting) 0 hlength
  obtain ⟨outputs, outcome, hresult, -, h⟩ := hjudged hok
  have hrun : run.1.1 = _ := hresult
  rw [hrun] at houtcome
  exact ⟨hlength, hok, outputs, outcome, h, Option.some.inj houtcome⟩

end Sorting

end KernelAudit
