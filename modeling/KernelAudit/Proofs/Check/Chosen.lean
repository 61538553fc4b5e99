import KernelAudit.Proofs.Check.Containment

/-! What a run of the built-in checks reports on. One of them depends on another one, so the order of a selection
    is the order in which its ids first occur, but for that pair: where the dependency stands behind the check
    that needs it, it is moved in front. The checks that are left by skipping some or by choosing categories
    stand in the order of their registration, in which nothing is moved. -/

namespace KernelAudit.Order

/-- The list with `b` moved right in front of `a`, if it stands behind it. -/
def moveBefore (b a : String) : List String → List String
  | [] => []
  | id :: rest =>
    if id = a ∧ b ∈ rest then b :: id :: rest.filter (· ≠ b) else id :: moveBefore b a rest

example : moveBefore "B" "A" ["C", "A", "D", "B"] = ["C", "B", "A", "D"] := by decide

/-! ### First occurrences -/

theorem eraseDups_filter (p : String → Bool) :
    ∀ ids : List String, (ids.filter p).eraseDups = ids.eraseDups.filter p
  | [] => rfl
  | id :: ids => by
    have hcomm : (ids.filter p).filter (!· == id) = (ids.filter (!· == id)).filter p := List.filter_comm ..
    have hrest := eraseDups_filter p (ids.filter (!· == id))
    rw [List.eraseDups_cons]
    cases hid : p id with
    | true =>
      rw [List.filter_cons_of_pos hid, List.filter_cons_of_pos hid, List.eraseDups_cons, hcomm, hrest]
    | false =>
      have hnone : (ids.filter (!· == id)).filter p = ids.filter p := by
        rw [List.filter_filter]
        refine List.filter_congr fun x _ => ?_
        by_cases hx : x = id
        · rw [hx, hid, Bool.false_and]
        · simp [hx]
      rw [List.filter_cons_of_neg (by simp [hid]), List.filter_cons_of_neg (by simp [hid]), ← hrest, hnone]
termination_by ids => ids.length
decreasing_by exact Nat.lt_succ_of_le (List.length_filter_le _ _)

theorem unvisited_cons_of_mem {ids visited : List String} {id : String} (h : id ∈ visited) :
    unvisited (id :: ids) visited = unvisited ids visited :=
  List.filter_cons_of_neg (by simpa using h)

theorem unvisited_visited_cons {ids visited : List String} {id : String} :
    unvisited ids (id :: visited) = (unvisited ids visited).filter (· ≠ id) := by
  rw [unvisited, unvisited, List.filter_filter]
  refine List.filter_congr fun x _ => ?_
  simp

/-- The first occurrences of what has not been visited, the first of them visited now. -/
theorem eraseDups_unvisited_cons {ids visited : List String} {id : String} (h : id ∉ visited) :
    (unvisited (id :: ids) visited).eraseDups = id :: (unvisited ids (id :: visited)).eraseDups := by
  have hrest : (unvisited ids visited).filter (!· == id) = unvisited ids (id :: visited) := by
    rw [unvisited_visited_cons]
    refine List.filter_congr fun x _ => ?_
    simp [beq_eq_decide]
  rw [unvisited, List.filter_cons_of_pos (by simpa using h), List.eraseDups_cons]
  exact congrArg (fun ids => id :: ids.eraseDups) hrest

/-! ### A single dependency -/

section
variable {a b : String} {selected visited ids : List String}

theorem moveBefore_of_not_mem (h : a ∉ ids) : moveBefore b a ids = ids := by
  induction ids with
  | nil => rfl
  | cons id rest ih =>
    rw [List.mem_cons, not_or] at h
    rw [moveBefore, if_neg fun hid => h.1 hid.1.symm, ih h.2]

/-- Nothing is moved where no id repeats and `b` does not stand behind `a`. -/
theorem moveBefore_eraseDups_eq_self (h : ids.Pairwise fun x y => x ≠ y ∧ ¬(x = a ∧ y = b)) :
    moveBefore b a ids.eraseDups = ids := by
  induction ids with
  | nil => rfl
  | cons id rest ih =>
    obtain ⟨hhead, htail⟩ := List.pairwise_cons.mp h
    have hnew : rest.filter (!· == id) = rest :=
      List.filter_eq_self.mpr fun x hx => by simpa using (hhead x hx).1.symm
    have hbehind : ¬(id = a ∧ b ∈ rest.eraseDups) := fun hb =>
      (hhead b (List.mem_eraseDups.mp hb.2)).2 ⟨hb.1, rfl⟩
    rw [List.eraseDups_cons, hnew, moveBefore, if_neg hbehind, ih htail]

variable (a b) in
/-- The only dependency is that of `a` on `b`. -/
def single (id : String) : List String := if id = a then [b] else []

theorem mem_single {id x : String} : x ∈ single a b id ↔ id = a ∧ x = b := by
  unfold single
  split <;> simp [*]

theorem walk_visit_single (hab : a ≠ b) (ha : a ∈ selected) (hanew : a ∉ visited) (hb : b ∈ selected)
    (hbnew : b ∉ a :: visited) (tasks : List Task) :
    walk (single a b) selected (.visit a :: tasks) visited =
      b :: a :: walk (single a b) selected tasks (b :: a :: visited) := by
  have hdeps : (single a b a).filter (· ∈ selected) = [b] := by simp [single, hb]
  have hnone : ∀ x ∈ (single a b b).filter (· ∈ selected), x ∈ b :: a :: visited := fun x hx =>
    absurd (mem_single.mp (List.mem_filter.mp hx).1).1 hab.symm
  -- The visit of `a` enters `b` first, which depends on nothing.
  rw [walk, dif_pos ⟨ha, hanew⟩]
  simp only [hdeps, List.map_cons, List.map_nil, List.singleton_append]
  rw [walk_visit_of_visited hb hbnew hnone, walk]

/-- What is left of a selection comes out in the order of first occurrences, but for the dependency. -/
theorem walk_single (hab : a ≠ b) (hselected : ∀ id ∈ ids, id ∈ selected)
    (hleft : ∀ id ∈ selected, id ∈ visited ∨ id ∈ ids) :
    walk (single a b) selected (ids.map .visit) visited = moveBefore b a (unvisited ids visited).eraseDups := by
  induction ids generalizing visited with
  | nil =>
    rw [List.map_nil, walk]
    rfl
  | cons id ids ih =>
    obtain ⟨hid, hrest⟩ := List.forall_mem_cons.mp hselected
    have hleft' : ∀ x ∈ selected, x ∈ id :: visited ∨ x ∈ ids := by
      intro x hx
      have := hleft x hx
      simp only [List.mem_cons] at this ⊢
      tauto
    rw [List.map_cons]
    by_cases hvisited : id ∈ visited
    · rw [walk, dif_neg fun hnew => hnew.2 hvisited, unvisited_cons_of_mem hvisited]
      refine ih hrest fun x hx => (hleft' x hx).imp_left fun hx => ?_
      rcases List.mem_cons.mp hx with rfl | hx
      · exact hvisited
      · exact hx
    · rw [eraseDups_unvisited_cons hvisited, moveBefore]
      split
      · next hmoved =>
        -- `b` comes out with `a` now, so nothing is moved later, and `b` is gone from the rest.
        obtain ⟨rfl, hmem⟩ := hmoved
        obtain ⟨hb, hbnew⟩ := List.mem_filter.mp (List.mem_eraseDups.mp hmem)
        have hdone : id ∉ (unvisited ids (b :: id :: visited)).eraseDups := by
          simp [List.mem_eraseDups, unvisited]
        rw [walk_visit_single hab hid hvisited (hrest b hb) (of_decide_eq_true hbnew),
          ih hrest fun x hx => (hleft' x hx).imp_left (List.mem_cons_of_mem b), moveBefore_of_not_mem hdone,
          ← eraseDups_filter, unvisited_visited_cons]
      · next hkept =>
        have hdeps : ∀ x ∈ (single a b id).filter (· ∈ selected), x ∈ id :: visited := by
          intro x hx
          obtain ⟨hdep, hxsel⟩ := List.mem_filter.mp hx
          obtain ⟨hida, rfl⟩ := mem_single.mp hdep
          by_contra hnew
          have hids : x ∈ ids := (hleft' x (of_decide_eq_true hxsel)).resolve_left hnew
          have hbehind : x ∈ (unvisited ids (id :: visited)).eraseDups :=
            List.mem_eraseDups.mpr (List.mem_filter.mpr ⟨hids, decide_eq_true hnew⟩)
          exact hkept ⟨hida, hbehind⟩
        rw [walk_visit_of_visited hid hvisited hdeps, ih hrest hleft']

theorem dependencyOrder_single (hab : a ≠ b) : dependencyOrder (single a b) ids = moveBefore b a ids.eraseDups := by
  have hall : unvisited ids [] = ids := List.filter_eq_self.mpr fun _ _ => rfl
  rw [dependencyOrder, walk_single hab (fun _ => id) fun _ => Or.inr, hall]

end

end Order

/-! ### The built-in checks -/

namespace Builtin
open KernelAudit.Check KernelAudit.Order

/-- The built-in checks in the order of their registration. -/
def table : List (String × Category) :=
  [("NUM-001", .numeric), ("NUM-002", .numeric), ("NUM-003", .numeric), ("NUM-004", .numeric), ("SORT-001", .sort),
    ("SORT-002", .sort)]

def ids : List String := table.map Prod.fst

section
variable {m : Type → Type} [Monad m] (host : Host m) (kernels : KernelSet m) (config : Sorting.Config)

theorem map_row_checks : (checks host kernels config).map (fun check => (check.id, check.category)) = table := rfl

theorem map_id_checks_filter (keep : String → Category → Bool) :
    ((checks host kernels config).filter fun check => keep check.id check.category).map Check.id =
      (table.filter fun row => keep row.1 row.2).map Prod.fst := by
  rw [← map_row_checks host kernels config, List.filter_map, List.map_map]
  rfl

theorem dependenciesOf_checks_eq_single :
    dependenciesOf (checks host kernels config) = single "SORT-002" "SORT-001" := by
  funext id
  by_cases hid : id ∈ (checks host kernels config).map Check.id
  · exact dependenciesOf_checks host kernels config hid
  · have hnone : find? (checks host kernels config) id = none := by
      simpa [Option.isSome_iff_ne_none] using mt isSome_find?_iff.mp hid
    have hother : id ≠ "SORT-002" := fun heq => hid (by rw [heq, map_id_checks]; decide)
    rw [dependenciesOf, hnone, single, if_neg hother]
    rfl

variable {host kernels config}

/-- What a selection of ids executes, in order. -/
theorem map_id_plan_checks (selected : List String) :
    (plan (checks host kernels config) selected).map Check.id =
      moveBefore "SORT-001" "SORT-002" (selected.filter (· ∈ ids)).eraseDups := by
  have hknown : (fun id => (find? (checks host kernels config) id).isSome) = fun id => decide (id ∈ ids) := by
    funext id
    exact Bool.eq_iff_iff.mpr (isSome_find?_iff.trans decide_eq_true_iff.symm)
  have hclosed : ∀ a b, b ∈ single "SORT-002" "SORT-001" a → decide (b ∈ ids) = decide (a ∈ ids) := by
    intro a b hb
    obtain ⟨rfl, rfl⟩ := mem_single.mp hb
    rfl
  rw [map_id_plan, hknown, order, dependenciesOf_checks_eq_single,
    filter_dependencyOrder (fun _ _ => rfl) hclosed, dependencyOrder_single (by decide)]

/-- Ids in the order of the registration are executed in that order. -/
theorem map_id_plan_checks_of_sublist {selected : List String} (h : selected.Sublist ids) :
    (plan (checks host kernels config) selected).map Check.id = selected := by
  have hrows : ids.Pairwise fun x y => x ≠ y ∧ ¬(x = "SORT-002" ∧ y = "SORT-001") := by decide
  have hknown : selected.filter (· ∈ ids) = selected :=
    List.filter_eq_self.mpr fun id hid => decide_eq_true (h.subset hid)
  rw [map_id_plan_checks, hknown, moveBefore_eraseDups_eq_self (hrows.sublist h)]

end

end Builtin

/-- A run that goes on after failures reports on what it has planned, in that order. -/
theorem Check.map_id_report {σ : Type} {host : Host (StateM σ)} {settings : RunSettings}
    {checks : List (Check (Faulty (StateM σ)))} {selection : Selection} {s : σ} {report : Report}
    (hff : settings.failFast = false) (h : ((runChecks host.faulty settings checks selection).run.run s).1 = .ok report) :
    report.entries.map Entry.id = (plan checks (selection.ids checks)).map Check.id := by
  rw [eq_reportOf_settled h, map_id_of_reported (plan_reported hff), plan_settled, ids_settled, List.map_map]
  rfl

/-- A run that goes on after failures reports on the chosen checks and on no others, and there is a report unless
    a kernel has left a trap behind. If ids are asked for, these are the built-in ones among them, each where it
    first occurs, but SORT-001 right before SORT-002 if it stands behind it; what is to be skipped plays no part
    then. Else those that are not skipped are reported on in the order of their registration, whatever the
    categories; else those of the categories, and if none are chosen, all. -/
theorem reports_chosen_checks {σ : Type} (host : Host (StateM σ)) (kernels : KernelSet (StateM σ)) (c : RunConfig)
    (s : σ) (hvalid : c.validate = .ok ()) (hff : c.failFast = false) :
    (kernels.Droppable → ∃ report, ((c.runWith host kernels).run.run s).1 = .ok (.ok report)) ∧
    ∀ report, ((c.runWith host kernels).run.run s).1 = .ok (.ok report) →
      let ids := report.entries.map Entry.id
      (c.only ≠ [] →
        ids = Order.moveBefore "SORT-001" "SORT-002" (c.only.filter (· ∈ Builtin.ids)).eraseDups) ∧
      (c.only = [] → c.skip ≠ [] → ids = Builtin.ids.filter (· ∉ c.skip)) ∧
      (c.only = [] → c.skip = [] → ∀ chosen, c.categories = some chosen → chosen ≠ [] →
        ids = (Builtin.table.filter (·.2 ∈ chosen)).map Prod.fst) ∧
      (c.only = [] → c.skip = [] → c.categories = none ∨ c.categories = some [] → ids = Builtin.ids) := by
  let checks := Builtin.checks host kernels c.sort
  rw [RunConfig.fst_run_runWith hvalid]
  refine ⟨fun hdroppable => ?_, fun report hreport => ?_⟩
  · obtain ⟨report, hrun⟩ := Check.exists_report_of_settles host c.settings c.selection s
      (Builtin.checks_settle hdroppable c.sort)
    exact ⟨report, by rw [hrun]; rfl⟩
  obtain ⟨_, hrun, ⟨⟩⟩ := map_eq_ok.mp hreport
  have hids : report.entries.map Entry.id = (Check.plan checks (c.selection.ids checks)).map Check.id :=
    Check.map_id_report hff hrun
  refine ⟨fun honly => ?_, fun honly hskip => ?_, fun honly hskip chosen hchosen hsome => ?_, fun honly hskip hnone => ?_⟩
  · have hselection : c.selection = .only c.only := if_pos (by simpa using honly)
    rw [hids, hselection]
    exact Builtin.map_id_plan_checks c.only
  · have hselection : c.selection = .excluding c.skip := by simp [RunConfig.selection, honly, hskip]
    have hselected : (Selection.excluding c.skip).ids checks = Builtin.ids.filter (· ∉ c.skip) := by
      rw [Builtin.ids, List.filter_map]
      exact Builtin.map_id_checks_filter host kernels c.sort fun id _ => id ∉ c.skip
    rw [hids, hselection, hselected, Builtin.map_id_plan_checks_of_sublist List.filter_sublist]
  · have hselection : c.selection = .categories chosen := by
      simp [RunConfig.selection, honly, hskip, hchosen, hsome]
    have hselected : (Selection.categories chosen).ids checks = (Builtin.table.filter (·.2 ∈ chosen)).map Prod.fst :=
      Builtin.map_id_checks_filter host kernels c.sort fun _ category => category ∈ chosen
    rw [hids, hselection, hselected, Builtin.map_id_plan_checks_of_sublist (List.filter_sublist.map Prod.fst)]
  · have hselection : c.selection = .all := by
      rcases hnone with hnone | hnone <;> simp [RunConfig.selection, honly, hskip, hnone]
    rw [hids, hselection]
    exact Builtin.map_id_plan_checks_of_sublist (List.Sublist.refl _)

/-- The dependency is put in front where both are asked for, and what is skipped is run all the same. -/
theorem reports_chosen_checks_sample :
    let c : RunConfig := { RunConfig.default with
      only := ["SORT-002", "NUM-9", "NUM-003", "SORT-001", "SORT-002"], skip := ["SORT-001"] }
    c.validate = .ok () ∧ c.failFast = false ∧
      ∃ report, ((c.runWith (.idle : Host (StateM Unit)) Reference.kernels).run.run ()).1 = .ok (.ok report) ∧
        report.entries.map Entry.id = ["SORT-001", "SORT-002", "NUM-003"] := by
  intro c
  have hvalid : c.validate = .ok () := rfl
  obtain ⟨hreports, hids⟩ := reports_chosen_checks .idle Reference.kernels c () hvalid rfl
  obtain ⟨report, hrun⟩ := hreports Reference.droppable
  obtain ⟨honly, -⟩ := hids report hrun
  refine ⟨hvalid, rfl, report, hrun, ?_⟩
  rw [honly (by decide)]
  decide

end KernelAudit
