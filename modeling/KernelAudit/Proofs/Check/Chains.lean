import KernelAudit.Proofs.Check.Shadowing

/-! Dependencies across several checks. The order looks at dependencies between selected checks only, so a
    check goes before all that depend on it through a chain of selected checks. A chain that leads through a
    check that was not selected is not seen: with its middle left out, its two ends keep the places that
    the selection gives them. -/

namespace KernelAudit.Check
open KernelAudit.Order

section
variable {m : Type → Type} {checks : List (Check m)} {ids : List String} {a b c : String}

/-- A check registered under `a` has `b` among its dependencies. -/
def DependsOn (checks : List (Check m)) (a b : String) : Prop :=
  ∃ check ∈ checks, check.id = a ∧ b ∈ check.dependencies

/-- A dependency between two ids that are both selected. -/
def Linked (checks : List (Check m)) (ids : List String) (a b : String) : Prop :=
  DependsOn checks a b ∧ a ∈ ids ∧ b ∈ ids

theorem dependsOn_of_mem_dependenciesOf (h : b ∈ dependenciesOf checks a) : DependsOn checks a b := by
  rw [dependenciesOf] at h
  rcases hfind : find? checks a with _ | check
  · rw [hfind] at h
    cases h
  · rw [hfind] at h
    exact ⟨check, List.mem_of_find?_eq_some hfind, by simpa using List.find?_some hfind, h⟩

theorem dependenciesOf_eq (hnodup : (checks.map Check.id).Nodup) {check : Check m} (h : check ∈ checks) :
    dependenciesOf checks check.id = check.dependencies := by
  rw [dependenciesOf, find?_of_mem hnodup h]
  rfl

theorem Linked.edge (hnodup : (checks.map Check.id).Nodup) (h : Linked checks ids a b) :
    Edge (dependenciesOf checks) ids a b := by
  obtain ⟨⟨check, hcheck, rfl, hdep⟩, ha, hb⟩ := h
  exact ⟨ha, hb, (dependenciesOf_eq hnodup hcheck).symm ▸ hdep⟩

/-- Without cycles nothing keeps a selected dependency from going first. -/
theorem Linked.precedes (hnodup : (checks.map Check.id).Nodup)
    (hacyclic : ∀ id, ¬Relation.TransGen (DependsOn checks) id id) (h : Linked checks ids a b) :
    Precedes b a (order checks ids) := by
  have hne : a ≠ b := by
    rintro rfl
    exact hacyclic a (.single h.1)
  have hback : ¬Reaches (dependenciesOf checks) ids b a := by
    intro hreaches
    have hcycle : Relation.TransGen (DependsOn checks) b a :=
      Relation.TransGen.mono (fun _ _ hedge => dependsOn_of_mem_dependenciesOf hedge.2.2) b a hreaches
    exact hacyclic a (.head h.1 hcycle)
  exact ordered_dependencyOrder _ _ a b (h.edge hnodup) hne hback

/-- What is first along each link of a chain is first along the chain. -/
theorem precedes_of_chain (hnodup : (checks.map Check.id).Nodup)
    (hacyclic : ∀ id, ¬Relation.TransGen (DependsOn checks) id id)
    (hchain : Relation.TransGen (Linked checks ids) a c) : Precedes c a (order checks ids) := by
  induction hchain with
  | single hlink => exact hlink.precedes hnodup hacyclic
  | tail _ hlink ih => exact (hlink.precedes hnodup hacyclic).trans ih

theorem firstUnder_of_nodup (hnodup : (checks.map Check.id).Nodup) {k : Nat} {check : Check m}
    (hk : checks[k]? = some check) : FirstUnder checks check.id k := by
  obtain ⟨hlt, -⟩ := List.getElem?_eq_some_iff.mp hk
  exact (not_shadowed_iff hk).mp (nodup_iff_not_shadowed.mp hnodup k hlt)

end

section
variable {σ : Type} (host : Host (StateM σ)) (settings : RunSettings) (checks : List (Check (StateM σ)))
  (selection : Selection) (s : σ)

/-- The executions of a run keep the order of the ids, up to the failure that may end it. -/
theorem precedes_executions {a c : String} (h : Precedes c a (order checks (selection.ids checks))) {n k : Nat}
    (hn : FirstUnder checks a n) (hk : FirstUnder checks c k) :
    Precedes k n (executions host settings checks selection s) := by
  obtain ⟨check, hcheck, rfl, -⟩ := hn
  refine Precedes.of_prefix ?_ (executions_eq host settings checks selection s ▸ List.take_prefix _ _)
  rw [numbers_eq_filterMap]
  exact h.filterMap (firstUnder_iff.mpr hk) fun id hid => ((firstUnder_iff.mp hid).id_eq hcheck).symm

/-- In a registry with distinct ids and no cycle, a check that others depend on through a chain of selected
    checks comes before them in the order; and whenever one of them is executed, it has been executed. -/
theorem executes_chains_in_order (hnodup : (checks.map Check.id).Nodup)
    (hacyclic : ∀ id, ¬Relation.TransGen (DependsOn checks) id id) {a c : String}
    (hchain : Relation.TransGen (Linked checks (selection.ids checks)) a c) :
    (a ∈ order checks (selection.ids checks) ∧ Precedes c a (order checks (selection.ids checks))) ∧
      ∀ n k check other, checks[n]? = some check → check.id = a → checks[k]? = some other → other.id = c →
        Precedes k n (executions host settings checks selection s) := by
  have hprecedes : Precedes c a (order checks (selection.ids checks)) :=
    precedes_of_chain hnodup hacyclic hchain
  obtain ⟨b, hlink, -⟩ := Relation.TransGen.head'_iff.mp hchain
  refine ⟨⟨(mem_dependencyOrder_iff _ _).mpr hlink.2.1, hprecedes⟩, ?_⟩
  rintro n k check other hn rfl hk rfl
  exact precedes_executions host settings checks selection s hprecedes (firstUnder_of_nodup hnodup hn)
    (firstUnder_of_nodup hnodup hk)

end

/-- Three checks, each of which depends on the next one. -/
def sampleChain : List (Check (StateM Unit)) :=
  [⟨"A", "first", .sort, "", ["B"], pure ⟨.ok (.pass "" 0), 0⟩⟩,
   ⟨"B", "second", .sort, "", ["C"], pure ⟨.ok (.fail "" "" 0), 0⟩⟩,
   ⟨"C", "third", .sort, "", [], pure ⟨.ok (.pass "" 0), 0⟩⟩]

theorem dependsOn_sampleChain_iff {a b : String} :
    DependsOn sampleChain a b ↔ (a = "A" ∧ b = "B") ∨ (a = "B" ∧ b = "C") := by
  simp [DependsOn, sampleChain, eq_comm]

/-- Along the chain the ids grow. -/
theorem acyclic_sampleChain (id : String) : ¬Relation.TransGen (DependsOn sampleChain) id id := by
  have hlt : ∀ a b, DependsOn sampleChain a b → a < b := by
    intro a b h
    rcases dependsOn_sampleChain_iff.mp h with ⟨rfl, rfl⟩ | ⟨rfl, rfl⟩
    · decide
    · decide
  intro hcycle
  exact String.lt_irrefl id (Relation.transGen_minimal hlt id id hcycle)

/-- With all three selected, the last one of the chain goes before the first one. -/
theorem executes_chains_in_order_sample :
    let selection := Selection.only ["A", "B", "C"]
    (sampleChain.map Check.id).Nodup ∧ (∀ id, ¬Relation.TransGen (DependsOn sampleChain) id id) ∧
      Relation.TransGen (Linked sampleChain (selection.ids sampleChain)) "A" "C" ∧
      Precedes "C" "A" (order sampleChain (selection.ids sampleChain)) ∧
      Precedes 2 0 (executions Host.idle ⟨false, 10, ""⟩ sampleChain selection ()) := by
  intro selection
  have hnodup : (sampleChain.map Check.id).Nodup := by decide
  have hfirst : Linked sampleChain (selection.ids sampleChain) "A" "B" :=
    ⟨dependsOn_sampleChain_iff.mpr (.inl ⟨rfl, rfl⟩), by decide, by decide⟩
  have hsecond : Linked sampleChain (selection.ids sampleChain) "B" "C" :=
    ⟨dependsOn_sampleChain_iff.mpr (.inr ⟨rfl, rfl⟩), by decide, by decide⟩
  have hchain : Relation.TransGen (Linked sampleChain (selection.ids sampleChain)) "A" "C" :=
    .tail (.single hfirst) hsecond
  obtain ⟨⟨-, horder⟩, hrun⟩ := executes_chains_in_order Host.idle ⟨false, 10, ""⟩ sampleChain selection () hnodup
    acyclic_sampleChain hchain
  exact ⟨hnodup, acyclic_sampleChain, hchain, horder, hrun 0 2 _ _ rfl rfl rfl rfl⟩

/-- Without the check in the middle, the first one goes before the last one, which it depends on. -/
theorem not_executes_through_unselected :
    let selection := Selection.excluding ["B"]
    (sampleChain.map Check.id).Nodup ∧ (∀ id, ¬Relation.TransGen (DependsOn sampleChain) id id) ∧
      Relation.TransGen (DependsOn sampleChain) "A" "C" ∧
      "A" ∈ selection.ids sampleChain ∧ "C" ∈ selection.ids sampleChain ∧
      ¬Precedes "C" "A" (order sampleChain (selection.ids sampleChain)) ∧
      executions Host.idle ⟨false, 10, ""⟩ sampleChain selection () = [0, 2] := by
  intro selection
  have horder : order sampleChain (selection.ids sampleChain) = ["A", "C"] := by
    simp [order, dependencyOrder, Order.walk, selection, Selection.ids, dependenciesOf, find?, sampleChain]
  have hchain : Relation.TransGen (DependsOn sampleChain) "A" "C" :=
    .tail (.single (dependsOn_sampleChain_iff.mpr (.inl ⟨rfl, rfl⟩)))
      (dependsOn_sampleChain_iff.mpr (.inr ⟨rfl, rfl⟩))
  refine ⟨by decide, acyclic_sampleChain, hchain, by decide, by decide, fun h => ?_, ?_⟩
  · rw [horder] at h
    exact List.not_mem_nil (h [] ["C"] rfl)
  · rw [executions_eq_numbers rfl, numbers, numberedPlan, horder]
    rfl

end KernelAudit.Check
