import KernelAudit.Proofs.Check.FailFast

/-! Runs with a longer timeout. More time turns an overrun into what the check answered, and changes nothing
    about any other execution: a fault is a failure however long it took. So where the checks always end alike,
    a run with more time goes through the same checks as long as it lasts, differs on failures only, and goes
    on behind the end of the other one only if that was a failure. -/

namespace KernelAudit

/-- With more time the same check says the same, unless it was a failure. -/
structure Entry.EasesTo (e e' : Entry) : Prop where
  id_eq : e'.id = e.id
  eq_of_passed : e.status? ≠ some .fail → e' = e

/-- More time brings in no failure. -/
theorem Entry.EasesTo.fail {e e' : Entry} (h : e.EasesTo e') (hfail : e'.status? = some .fail) :
    e.status? = some .fail := by
  by_contra hpass
  rw [h.eq_of_passed hpass] at hfail
  exact hpass hfail

/-- `long` is `short` with more time: a failure may become anything else, and the run may go on behind a failure
    that ended it. -/
inductive Eased (failFast : Bool) : (short long : List Entry) → Prop
  | nil : Eased failFast [] []
  | stop {e e' : Entry} {rest : List Entry} (hff : failFast = true) (hfail : e.status? = some .fail)
      (h : e.EasesTo e') : Eased failFast [e] (e' :: rest)
  | next {e e' : Entry} {short long : List Entry} (h : e.EasesTo e') (later : Eased failFast short long) :
      Eased failFast (e :: short) (e' :: long)

namespace Eased
variable {failFast : Bool} {short long : List Entry}

theorem prefix_ids (h : Eased failFast short long) : short.map Entry.id <+: long.map Entry.id := by
  induction h with
  | nil => exact List.prefix_refl _
  | stop _ _ h =>
    rw [List.map_cons, List.map_cons, h.id_eq, List.map_nil, List.prefix_cons_inj]
    exact List.nil_prefix
  | next h _ ih =>
    rw [List.map_cons, List.map_cons, h.id_eq, List.prefix_cons_inj]
    exact ih

theorem ids_eq (h : Eased false short long) : short.map Entry.id = long.map Entry.id := by
  generalize hff : false = failFast at h
  induction h with
  | nil => rfl
  | stop hstop => exact absurd (hff.trans hstop) Bool.false_ne_true
  | next h _ ih => rw [List.map_cons, List.map_cons, h.id_eq, ih]

theorem mem_of_passed (h : Eased failFast short long) {e : Entry} (he : e ∈ short)
    (hpass : e.status? ≠ some .fail) : e ∈ long := by
  induction h with
  | nil => cases he
  | stop _ hfail =>
    rw [List.mem_singleton.mp he] at hpass
    exact absurd hfail hpass
  | next h _ ih =>
    rcases List.mem_cons.mp he with rfl | he
    · exact h.eq_of_passed hpass ▸ List.mem_cons_self
    · exact List.mem_cons_of_mem _ (ih he)

theorem eq_of_passed (h : Eased failFast short long) (hpass : ∀ e ∈ short, e.status? ≠ some .fail) :
    long = short := by
  induction h with
  | nil => rfl
  | stop _ hfail => exact absurd hfail (hpass _ List.mem_cons_self)
  | next h _ ih =>
    obtain ⟨hhead, htail⟩ := List.forall_mem_cons.mp hpass
    rw [h.eq_of_passed hhead, ih htail]

end Eased

/-! ### Executions and runs with more time -/

section
variable {timeout longer : UInt64}

theorem Execution.result_of_le (hle : timeout ≤ longer) {execution : Execution} {id : String}
    (hpass : (execution.result timeout id).status ≠ .fail) :
    execution.result longer id = execution.result timeout id := by
  obtain ⟨outcome, elapsedMs⟩ := execution
  unfold Execution.result at hpass ⊢
  cases outcome with
  | error fault => rfl
  | ok result =>
    dsimp only at hpass ⊢
    by_cases hover : elapsedMs > timeout
    · rw [if_pos hover] at hpass
      exact absurd rfl hpass
    · have hin : ¬elapsedMs > longer := fun hover' => hover (Std.lt_of_le_of_lt hle hover')
      rw [if_neg hover, if_neg hin]

namespace Check
variable {σ : Type}

theorem Fixed.easesTo {check : Check (StateM σ)} (h : check.Fixed) (settings : RunSettings) (hle : timeout ≤ longer)
    (s s' : σ) : (entryAt { settings with timeoutMs := timeout } check s).EasesTo
      (entryAt { settings with timeoutMs := longer } check s') := by
  obtain ⟨execution, hexecution⟩ := h
  rw [entryAt, entryAt, hexecution, hexecution]
  refine ⟨rfl, fun hpass => ?_⟩
  rw [Execution.result_of_le hle fun hfail => hpass (congrArg some hfail)]

theorem eased_runAll {settings : RunSettings} (hle : timeout ≤ longer) {planned : List (Check (StateM σ))}
    (h : ∀ check ∈ planned, check.Fixed) (s s' : σ) :
    Eased settings.failFast ((runAll { settings with timeoutMs := timeout } planned).run s).1
      ((runAll { settings with timeoutMs := longer } planned).run s').1 := by
  induction planned generalizing s s' with
  | nil => exact .nil
  | cons check rest ih =>
    obtain ⟨hcheck, hrest⟩ := List.forall_mem_cons.mp h
    have heases : Entry.EasesTo _ _ := hcheck.easesTo settings hle s s'
    rw [run_runAll_cons, run_runAll_cons]
    simp only [Bool.and_eq_true, decide_eq_true_eq]
    split
    · next hstop =>
      obtain ⟨hff, hfail⟩ := hstop
      split
      · exact .stop hff hfail heases
      · exact .stop hff hfail heases
    · next hgoes =>
      rw [if_neg fun hstop => hgoes ⟨hstop.1, heases.fail hstop.2⟩]
      exact .next heases (ih hrest _ _)

/-- If all checks always end alike, more time never drops a check from the report and brings in no failure. The ids
    reported with less time are a beginning of those reported with more, or all of them if the run goes on after
    failures. What was not a failure is reported just as before; and if there was none, nothing changes at all. -/
theorem more_time_keeps_results (host : Host (StateM σ)) (settings : RunSettings) (checks : List (Check (StateM σ)))
    (selection : Selection) (hfixed : ∀ check ∈ checks, check.Fixed) (hle : timeout ≤ longer) (s s' : σ) :
    let short := reportOf host { settings with timeoutMs := timeout } checks selection s
    let long := reportOf host { settings with timeoutMs := longer } checks selection s'
    short.entries.map Entry.id <+: long.entries.map Entry.id ∧
      (settings.failFast = false → short.entries.map Entry.id = long.entries.map Entry.id) ∧
      (∀ e ∈ short.entries, e.status? ≠ some .fail → ∀ e' ∈ long.entries, e'.id = e.id → e' = e) ∧
      (short.summary.exitCode ≠ 1 → long.entries = short.entries) := by
  intro short long
  have heased : Eased settings.failFast short.entries long.entries :=
    eased_runAll hle (fun check hcheck => hfixed check (mem_of_mem_plan hcheck)) (host.clock.run s).2
      (host.clock.run s').2
  refine ⟨heased.prefix_ids, fun hff => ?_, fun e he hpass e' he' hid => ?_, fun hexit => ?_⟩
  · rw [hff] at heased
    exact heased.ids_eq
  · exact List.inj_on_of_nodup_map (nodup_reportOf host _ checks selection s') he' (heased.mem_of_passed he hpass) hid
  · refine heased.eq_of_passed fun e he hfail => hexit ?_
    exact Summary.exitCode_ofEntries_eq_one_iff.mpr ⟨e, he, Entry.counted_of_status? hfail⟩

/-- With ten milliseconds the overrun is the end of the run; with eleven it is a pass, and the run goes on to the
    fault. The warning in front of it stays as it is. -/
theorem more_time_keeps_results_sample :
    let selection := Selection.only ["D", "C", "A", "B"]
    let short := reportOf Host.idle ⟨true, 10, ""⟩ sampleEndings selection ()
    let long := reportOf Host.idle ⟨true, 11, ""⟩ sampleEndings selection ()
    (∀ check ∈ sampleEndings, check.Fixed) ∧ (10 : UInt64) ≤ 11 ∧
      short.entries.map Entry.id <+: long.entries.map Entry.id ∧
      short.entries.map Entry.id = ["D", "C"] ∧ long.entries.map Entry.id = ["D", "C", "B"] ∧
      ∀ e ∈ long.entries, e.id = "D" → e = ⟨"D", "fourth", .sort, "", some (.warn "" "" 0)⟩ := by
  intro selection short long
  have horder : order sampleEndings (selection.ids sampleEndings) = ["D", "C", "B", "A"] := by
    simp [order, dependencyOrder, Order.walk, selection, Selection.ids, dependenciesOf, find?, sampleEndings]
  have hplan : plan sampleEndings (selection.ids sampleEndings) =
      ["D", "C", "B", "A"].filterMap (find? sampleEndings) :=
    congrArg (List.filterMap (find? sampleEndings)) horder
  have hshort : short.entries = _ := congrArg (fun planned => ((runAll ⟨true, 10, ""⟩ planned).run ()).1) hplan
  have hlong : long.entries = _ := congrArg (fun planned => ((runAll ⟨true, 11, ""⟩ planned).run ()).1) hplan
  have hwarned : (⟨"D", "fourth", .sort, "", some (.warn "" "" 0)⟩ : Entry) ∈ short.entries := by
    rw [hshort]
    exact List.mem_cons_self
  have hle : (10 : UInt64) ≤ 11 := by decide
  obtain ⟨hbegins, -, hsame, -⟩ :=
    more_time_keeps_results Host.idle ⟨true, 10, ""⟩ sampleEndings selection fixed_sampleEndings hle () ()
  refine ⟨fixed_sampleEndings, hle, hbegins, ?_, ?_, hsame _ hwarned (by decide)⟩
  · rw [hshort]
    rfl
  · rw [hlong]
    rfl

end Check

end

end KernelAudit
