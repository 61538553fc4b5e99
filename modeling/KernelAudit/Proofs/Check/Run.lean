import KernelAudit.Proofs.Check.Order
import KernelAudit.Proofs.Log
import Mathlib.Data.List.Forall2
import Mathlib.Data.List.Nodup

/-! Which checks a run executes. Ids may repeat in a registry, so the executions are told apart by the
    numbers of the checks in it: a registry whose checks write their numbers down runs as it did before,
    and leaves a log of what was executed, in which order. The log is what was planned, up to the
    failure that ended the run; the plan is the order of the selected ids, each looked up once. -/

namespace KernelAudit

variable {m : Type → Type}

namespace Check

/-! ### Numbered checks -/

/-- The first check registered under an id, with its number. -/
def numbered? (checks : List (Check m)) (id : String) : Option (Check m × Nat) :=
  checks.zipIdx.find? (·.1.id = id)

/-- The plan of a run, with the numbers of the checks. -/
def numberedPlan (checks : List (Check m)) (ids : List String) : List (Check m × Nat) :=
  (order checks ids).filterMap (numbered? checks)

/-- The check with this number is the first that is registered under the id. -/
def FirstUnder (checks : List (Check m)) (id : String) (number : Nat) : Prop :=
  ∃ check, checks[number]? = some check ∧ check.id = id ∧
    ∀ earlier < number, ∀ other, checks[earlier]? = some other → other.id ≠ id

section
variable {checks : List (Check m)} {id : String} {ids : List String}

theorem find?_eq_numbered? : find? checks id = (numbered? checks id).map Prod.fst := by
  have hmap : checks = checks.zipIdx.map Prod.fst := (List.zipIdx_map_fst 0 checks).symm
  rw [find?, numbered?, hmap, List.find?_map, List.zipIdx_map_fst]
  rfl

theorem plan_eq_map_fst : plan checks ids = (numberedPlan checks ids).map Prod.fst := by
  rw [plan, numberedPlan, List.map_filterMap]
  exact congrArg (fun f => (order checks ids).filterMap f) (funext fun _ => find?_eq_numbered?)

theorem numbered?_eq_some_iff {check : Check m} {number : Nat} :
    numbered? checks id = some (check, number) ↔ checks[number]? = some check ∧ FirstUnder checks id number := by
  rw [numbered?, List.find?_eq_some_iff_getElem]
  constructor
  · rintro ⟨hid, i, hi, hget, hbefore⟩
    rw [List.getElem_zipIdx, Prod.mk.injEq, Nat.zero_add] at hget
    obtain ⟨rfl, rfl⟩ := hget
    have hlt : i < checks.length := by simpa using hi
    refine ⟨List.getElem?_eq_getElem hlt, _, List.getElem?_eq_getElem hlt, of_decide_eq_true hid, ?_⟩
    intro earlier hearlier other hother
    have := hbefore earlier hearlier
    obtain ⟨_, rfl⟩ := List.getElem?_eq_some_iff.mp hother
    simpa using this
  · rintro ⟨hget, _, hget', hid, hbefore⟩
    rw [hget, Option.some.injEq] at hget'
    subst hget'
    obtain ⟨hlt, rfl⟩ := List.getElem?_eq_some_iff.mp hget
    refine ⟨decide_eq_true hid, number, by simpa using hlt, by simp, fun earlier hearlier => ?_⟩
    have hlt' : earlier < checks.length := Nat.lt_trans hearlier hlt
    have := hbefore earlier hearlier _ (List.getElem?_eq_getElem hlt')
    simpa using this

end

theorem mem_of_mem_plan {checks : List (Check m)} {ids : List String} {check : Check m}
    (h : check ∈ plan checks ids) : check ∈ checks := by
  obtain ⟨id, -, hfind⟩ := List.mem_filterMap.mp h
  exact List.mem_of_find?_eq_some hfind

/-! ### Registries in order -/

theorem find?_of_mem {checks : List (Check m)} (hnodup : (checks.map Check.id).Nodup) {check : Check m}
    (h : check ∈ checks) : find? checks check.id = some check := by
  rcases hfind : find? checks check.id with _ | other
  · have hnone := List.find?_eq_none.mp hfind check h
    simp at hnone
  · have hid : other.id = check.id := by simpa using List.find?_some hfind
    exact congrArg some (List.inj_on_of_nodup_map hnodup (List.mem_of_find?_eq_some hfind) h hid)

/-- A registry with distinct ids that has dependencies first is the plan of everything in it. -/
theorem plan_all {checks : List (Check m)} (hnodup : (checks.map Check.id).Nodup)
    (hfirst : Order.DependenciesFirst (dependenciesOf checks) (checks.map Check.id) (checks.map Check.id)) :
    plan checks (Selection.all.ids checks) = checks := by
  have horder : order checks (checks.map Check.id) = checks.map Check.id :=
    dependencyOrder_eq_self hnodup hfirst
  have hfind : ∀ check ∈ checks, (find? checks ∘ Check.id) check = some check := fun check hcheck =>
    find?_of_mem hnodup hcheck
  rw [plan, Selection.ids, horder, List.filterMap_map, List.filterMap_congr hfind, List.filterMap_some]

/-! ### Checks that write their numbers down -/

section
variable [Monad m]

/-- The check, its number written down before it begins. -/
def logged (check : Check m) (number : Nat) : Check (StateT (List Nat) m) where
  id := check.id
  name := check.name
  category := check.category
  description := check.description
  dependencies := check.dependencies
  execute := do
    note number
    StateT.lift check.execute

/-- A registry whose checks write down their numbers. -/
def allLogged (checks : List (Check m)) : List (Check (StateT (List Nat) m)) :=
  checks.zipIdx.map fun p => p.1.logged p.2

variable {checks : List (Check m)} {ids : List String}

theorem find?_allLogged (id : String) :
    find? (allLogged checks) id = (numbered? checks id).map fun p => p.1.logged p.2 := by
  rw [find?, allLogged, List.find?_map]
  rfl

theorem order_allLogged : order (allLogged checks) ids = order checks ids := by
  have hdep : dependenciesOf (allLogged checks) = dependenciesOf checks := by
    funext id
    rw [dependenciesOf, dependenciesOf, find?_allLogged, find?_eq_numbered?, Option.map_map, Option.map_map]
    rfl
  rw [order, order, hdep]

theorem plan_allLogged :
    plan (allLogged checks) ids = (numberedPlan checks ids).map fun p => p.1.logged p.2 := by
  rw [plan, numberedPlan, order_allLogged, List.map_filterMap]
  exact congrArg (fun f => (order checks ids).filterMap f) (funext find?_allLogged)

theorem map_id_filter_allLogged {p : Check m → Bool} {q : Check (StateT (List Nat) m) → Bool}
    (h : ∀ check number, q (logged check number) = p check) :
    ((allLogged checks).filter q).map Check.id = (checks.filter p).map Check.id := by
  have hfilter : checks.filter p = (checks.zipIdx.filter (p ∘ Prod.fst)).map Prod.fst := by
    rw [← List.filter_map, List.zipIdx_map_fst]
  rw [hfilter, allLogged, List.filter_map, List.map_map, List.map_map]
  exact congrArg (fun f => (checks.zipIdx.filter f).map _) (funext fun p => h p.1 p.2)

theorem ids_allLogged (selection : Selection) : selection.ids (allLogged checks) = selection.ids checks := by
  cases selection with
  | all =>
    have hall : ((allLogged checks).filter fun _ => true).map Check.id =
        (checks.filter fun _ => true).map Check.id :=
      map_id_filter_allLogged fun _ _ => rfl
    rwa [List.filter_eq_self.mpr fun _ _ => rfl, List.filter_eq_self.mpr fun _ _ => rfl] at hall
  | categories chosen => exact map_id_filter_allLogged fun _ _ => rfl
  | only ids => rfl
  | excluding ids => exact map_id_filter_allLogged fun _ _ => rfl

variable [LawfulMonad m]

theorem run_logged (settings : RunSettings) (check : Check m) (number : Nat) (log : List Nat) :
    ((check.logged number).run settings).run log = (do
      let entry ← check.run settings
      pure (entry, log ++ [number])) := by
  simp [run, logged, run_note, entry]

/-- The log of a run is the plan up to its last execution: each execution has an entry. -/
theorem runAll_logged (settings : RunSettings) (planned : List (Check m × Nat)) (log : List Nat) :
    (runAll settings (planned.map fun p : Check m × Nat => p.1.logged p.2)).run log = (do
      let entries ← runAll settings (planned.map Prod.fst)
      pure (entries, log ++ (planned.map Prod.snd).take entries.length)) := by
  induction planned generalizing log with
  | nil => simp [runAll]
  | cons p rest ih =>
    simp only [List.map_cons, runAll, StateT.run_bind, run_logged, bind_assoc, pure_bind]
    refine bind_congr fun entry => ?_
    split
    · simp
    · simp [ih]

/-- Writing the numbers down changes nothing about a run. -/
theorem run_runChecks_logged (host : Host m) (settings : RunSettings) (selection : Selection) (log : List Nat) :
    (runChecks host.logged settings (allLogged checks) selection).run log = (do
      let report ← runChecks host settings checks selection
      pure (report, log ++
        ((numberedPlan checks (selection.ids checks)).map Prod.snd).take report.entries.length)) := by
  rw [runChecks, runChecks, ids_allLogged, plan_allLogged, plan_eq_map_fst]
  simp [Host.timed, Host.logged, runAll_logged]

end

/-! ### Runs of a machine -/

section
variable {σ : Type} {checks : List (Check (StateM σ))} {ids : List String}

/-- The entry of a check that is executed in the given state. -/
def entryAt (settings : RunSettings) (check : Check (StateM σ)) (s : σ) : Entry :=
  check.entry ((check.execute.run s).1.result settings.timeoutMs check.id)

/-- A run executes its first check; unless that ends it, the rest runs on what the check has left behind. -/
theorem run_runAll_cons (settings : RunSettings) (check : Check (StateM σ)) (rest : List (Check (StateM σ))) (s : σ) :
    (runAll settings (check :: rest)).run s =
      if settings.failFast && (entryAt settings check s).status? = some .fail then
        ([entryAt settings check s], (check.execute.run s).2)
      else
        let later := (runAll settings rest).run (check.execute.run s).2
        (entryAt settings check s :: later.1, later.2) := by
  have hstep : (runAll settings (check :: rest)).run s =
      (if settings.failFast && (entryAt settings check s).status? = some .fail then pure [entryAt settings check s]
        else return entryAt settings check s :: (← runAll settings rest) :
          StateM σ (List Entry)).run (check.execute.run s).2 := rfl
  rw [hstep]
  split <;> rfl

/-- A run that goes on after failures executes the rest in any case. -/
theorem run_runAll_cons_of_goesOn {settings : RunSettings} (hff : settings.failFast = false)
    (check : Check (StateM σ)) (rest : List (Check (StateM σ))) (s : σ) :
    (runAll settings (check :: rest)).run s =
      let later := (runAll settings rest).run (check.execute.run s).2
      (entryAt settings check s :: later.1, later.2) := by
  rw [run_runAll_cons, hff, Bool.false_and]
  rfl

/-- The entry is about the check. -/
def Reported {m : Type → Type} (check : Check m) (entry : Entry) : Prop := ∃ result, entry = check.entry result

/-- Every entry is about the check that was executed for it, and every planned check is executed unless a
    failure may end the run. -/
theorem runAll_reported (settings : RunSettings) (planned : List (Check (StateM σ))) (s : σ) :
    ∃ entries s', (runAll settings planned).run s = (entries, s') ∧
      List.Forall₂ Reported (planned.take entries.length) entries ∧
      (settings.failFast = false → entries.length = planned.length) := by
  induction planned generalizing s with
  | nil => exact ⟨[], s, rfl, .nil, fun _ => rfl⟩
  | cons check rest ih =>
    have hentry : Reported check (entryAt settings check s) := ⟨_, rfl⟩
    rw [run_runAll_cons]
    split
    · next hfail =>
      refine ⟨_, _, rfl, .cons hentry .nil, fun hff => ?_⟩
      rw [hff, Bool.false_and] at hfail
      cases hfail
    · obtain ⟨entries, s', hrest, hreported, hlength⟩ := ih (check.execute.run s).2
      rw [hrest]
      refine ⟨_, _, rfl, .cons hentry hreported, fun hff => ?_⟩
      rw [List.length_cons, List.length_cons, hlength hff]

end

end Check

end KernelAudit
