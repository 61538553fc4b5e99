import KernelAudit.Proofs.Check.Chains

/-! Selections that keep their order. Before a visited id comes out, the walk puts out whatever is missing of
    its dependencies, and nothing that was visited before (`Visits`). So a selection comes out as it stands only
    if nothing is ever missing, which means that it repeats no id and has dependencies first; and a second walk
    keeps the order of the first one exactly if no two checks depend on each other. -/

namespace KernelAudit.Order

/-! ### Precedence in lists without repetitions -/

section
variable {α : Type} {a b : α} {l before rest : List α}

theorem precedes_of_nodup (hnodup : (before ++ a :: rest).Nodup) (hb : b ∈ before) :
    Precedes b a (before ++ a :: rest) := by
  intro before' rest' heq
  rcases List.append_eq_append_iff.mp heq with ⟨more, rfl, -⟩ | ⟨more, rfl, htail⟩
  · exact List.mem_append_left _ hb
  · cases more with
    | nil => rwa [List.append_nil] at hb
    | cons c more =>
      obtain ⟨rfl, -⟩ := List.cons.inj htail
      rw [List.nodup_middle, List.nodup_cons] at hnodup
      exact absurd (List.mem_append_left _ (List.mem_append_right _ List.mem_cons_self)) hnodup.1

theorem not_mem_of_precedes_self (h : Precedes a a l) : a ∉ l := by
  intro ha
  obtain ⟨before, rest, heq, hfirst⟩ := List.eq_append_cons_of_mem ha
  exact hfirst (h before rest heq)

end

section
variable {dependencies : String → List String} {selected : List String}

/-! ### What visits put out -/

theorem unvisited_le {visited visited' : List String} (h : visited ⊆ visited') :
    (unvisited selected visited').length ≤ (unvisited selected visited).length := by
  refine (List.monotone_filter_right selected fun id hid => ?_).length_le
  exact decide_eq_true fun hvisited => of_decide_eq_true hid (h hvisited)

variable (dependencies selected) in
/-- Visits of the ids put out `fresh` before the walk goes on, and leave `visited'` visited. -/
structure Visits (ids visited fresh visited' : List String) : Prop where
  walk_eq : ∀ tasks, walk dependencies selected (ids.map .visit ++ tasks) visited =
    fresh ++ walk dependencies selected tasks visited'
  visited_iff : ∀ id, id ∈ visited' ↔ id ∈ visited ∨ id ∈ fresh
  not_visited : ∀ id ∈ fresh, id ∉ visited
  all_visited : ∀ id ∈ ids, id ∈ selected → id ∈ visited'

namespace Visits
variable {id : String} {ids visited visited₁ visited₂ above later : List String}

theorem nil : Visits dependencies selected [] visited [] visited where
  walk_eq _ := rfl
  visited_iff _ := (or_iff_left List.not_mem_nil).symm
  not_visited := nofun
  all_visited := nofun

theorem subset (h : Visits dependencies selected ids visited above visited₁) : visited ⊆ visited₁ :=
  fun id hid => (h.visited_iff id).mpr (Or.inl hid)

/-- An id that is visited already, or not selected, adds nothing. -/
theorem pass (h : Visits dependencies selected ids visited later visited₁) (hold : ¬(id ∈ selected ∧ id ∉ visited)) :
    Visits dependencies selected (id :: ids) visited later visited₁ where
  walk_eq tasks := by rw [List.map_cons, List.cons_append, walk, dif_neg hold, h.walk_eq]
  visited_iff := h.visited_iff
  not_visited := h.not_visited
  all_visited := List.forall_mem_cons.mpr
    ⟨fun hs => h.subset (Decidable.byContradiction fun hv => hold ⟨hs, hv⟩), h.all_visited⟩

/-- A new id comes out behind what is missing of its dependencies. -/
theorem enter (hnew : id ∈ selected ∧ id ∉ visited)
    (habove : Visits dependencies selected ((dependencies id).filter (· ∈ selected)) (id :: visited) above visited₁)
    (hlater : Visits dependencies selected ids visited₁ later visited₂) :
    Visits dependencies selected (id :: ids) visited (above ++ id :: later) visited₂ where
  walk_eq tasks := by
    rw [List.map_cons, List.cons_append, walk, dif_pos hnew, habove.walk_eq, walk, hlater.walk_eq, List.append_assoc,
      List.cons_append]
  visited_iff x := by
    rw [hlater.visited_iff, habove.visited_iff, List.mem_cons, List.mem_append, List.mem_cons]
    tauto
  not_visited x hx hv := by
    rcases List.mem_append.mp hx with hx | hx
    · exact habove.not_visited x hx (List.mem_cons_of_mem _ hv)
    · rcases List.mem_cons.mp hx with rfl | hx
      · exact hnew.2 hv
      · exact hlater.not_visited x hx (habove.subset (List.mem_cons_of_mem _ hv))
  all_visited := List.forall_mem_cons.mpr
    ⟨fun _ => hlater.subset (habove.subset List.mem_cons_self), hlater.all_visited⟩

end Visits

variable (dependencies selected) in
theorem exists_visits : ∀ ids visited, ∃ fresh visited', Visits dependencies selected ids visited fresh visited'
  | [], visited => ⟨[], visited, .nil⟩
  | id :: ids, visited => by
    by_cases hnew : id ∈ selected ∧ id ∉ visited
    · obtain ⟨above, visited₁, habove⟩ := exists_visits ((dependencies id).filter (· ∈ selected)) (id :: visited)
      obtain ⟨later, visited₂, hlater⟩ := exists_visits ids visited₁
      exact ⟨_, _, habove.enter hnew hlater⟩
    · obtain ⟨later, visited₁, hlater⟩ := exists_visits ids visited
      exact ⟨_, _, hlater.pass hnew⟩
termination_by ids visited => ((unvisited selected visited).length, ids.length)
decreasing_by
  · exact Prod.Lex.left _ _ (unvisited_cons_lt hnew.1 hnew.2)
  · exact Prod.Lex.left _ _ (Nat.lt_of_le_of_lt (unvisited_le habove.subset) (unvisited_cons_lt hnew.1 hnew.2))
  · exact Prod.Lex.right _ (Nat.lt_succ_self _)

/-! ### Selections that come out as they stand -/

/-- Where the rest of a selection is walked as it stands, nothing is missing when an id of it comes out. -/
theorem precedes_of_walk_eq_self (hnodup : selected.Nodup) {before rest visited : List String}
    (hsel : selected = before ++ rest) (hvisited : ∀ id, id ∈ visited ↔ id ∈ before)
    (hwalk : walk dependencies selected (rest.map .visit) visited = rest) :
    ∀ a ∈ rest, ∀ b, Edge dependencies selected a b → a ≠ b → Precedes b a selected := by
  induction rest generalizing before visited with
  | nil => nofun
  | cons id rest ih =>
    have hnew : id ∈ selected ∧ id ∉ visited := by
      rw [hvisited]
      rw [hsel, List.nodup_middle, List.nodup_cons] at hnodup
      exact ⟨hsel ▸ List.mem_append_right _ List.mem_cons_self, fun hid => hnodup.1 (List.mem_append_left _ hid)⟩
    obtain ⟨above, visited₁, habove⟩ :=
      exists_visits dependencies selected ((dependencies id).filter (· ∈ selected)) (id :: visited)
    rw [List.map_cons, walk, dif_pos hnew, habove.walk_eq, walk] at hwalk
    -- What comes out first is the id itself, which had been visited when its dependencies were.
    obtain rfl : above = [] := by
      rcases above with _ | ⟨x, above⟩
      · rfl
      · obtain ⟨rfl, -⟩ := List.cons.inj hwalk
        exact absurd List.mem_cons_self (habove.not_visited _ List.mem_cons_self)
    have hvisited₁ : ∀ x, x ∈ visited₁ ↔ x = id ∨ x ∈ before := fun x => by
      rw [habove.visited_iff, or_iff_left List.not_mem_nil, List.mem_cons, hvisited]
    refine List.forall_mem_cons.mpr ⟨fun b hedge hne => ?_, ?_⟩
    · have hb := habove.all_visited b (List.mem_filter.mpr ⟨hedge.2.2, decide_eq_true hedge.2.1⟩) hedge.2.1
      have hbefore : b ∈ before := ((hvisited₁ b).mp hb).resolve_left fun heq => hne heq.symm
      rw [hsel] at hnodup ⊢
      exact precedes_of_nodup hnodup hbefore
    · have hnext : selected = (before ++ [id]) ++ rest := by rw [hsel, List.append_assoc, List.singleton_append]
      refine ih hnext (fun x => ?_) (List.cons.inj hwalk).2
      rw [hvisited₁, List.mem_append, List.mem_singleton, or_comm]

/-! ### Orders that are kept -/

theorem edge_congr {selected' : List String} (h : ∀ id, id ∈ selected' ↔ id ∈ selected) :
    Edge dependencies selected' = Edge dependencies selected := by
  funext a b
  rw [Edge, Edge, h, h]

theorem DependenciesFirst.precedes_of_reaches {order : List String} {a b : String}
    (h : DependenciesFirst dependencies selected order) (hreaches : Reaches dependencies selected a b) (hne : a ≠ b) :
    Precedes b a order := by
  induction hreaches with
  | single hedge => exact h _ _ hedge hne
  | @tail c b _ hedge ih =>
    by_cases hac : a = c
    · exact h a b (hac ▸ hedge) hne
    · by_cases hcb : c = b
      · exact hcb ▸ ih hac
      · exact (h c b hedge hcb).trans (ih hac)

theorem DependenciesFirst.eq_of_reaches {order : List String} {a b : String}
    (h : DependenciesFirst dependencies selected order) (hmem : ∀ id ∈ selected, id ∈ order)
    (hab : Reaches dependencies selected a b) (hba : Reaches dependencies selected b a) : a = b := by
  by_contra hne
  obtain ⟨_, hedge, -⟩ := Relation.TransGen.head'_iff.mp hab
  -- Each of the two goes before the other, so `a` would go before itself.
  exact not_mem_of_precedes_self ((h.precedes_of_reaches hba (Ne.symm hne)).trans (h.precedes_of_reaches hab hne))
    (hmem a hedge.1)

end

end KernelAudit.Order

namespace KernelAudit
open KernelAudit.Order

variable {dependencies : String → List String} {selected : List String}

theorem dependencyOrder_eq_self_iff :
    dependencyOrder dependencies selected = selected ↔
      selected.Nodup ∧ DependenciesFirst dependencies selected selected := by
  constructor
  · intro h
    have hnodup : selected.Nodup := h ▸ nodup_dependencyOrder dependencies selected
    refine ⟨hnodup, fun a b hedge => ?_⟩
    exact precedes_of_walk_eq_self hnodup (List.nil_append _).symm (fun _ => Iff.rfl) h a hedge.1 b hedge
  · rintro ⟨hnodup, hfirst⟩
    exact dependencyOrder_eq_self hnodup hfirst

/-- The order is in order itself exactly if the selected ids have no cycle of several. -/
theorem dependencyOrder_idem_iff :
    dependencyOrder dependencies (dependencyOrder dependencies selected) = dependencyOrder dependencies selected ↔
      ∀ a b, Reaches dependencies selected a b → Reaches dependencies selected b a → a = b := by
  have hmem : ∀ id, id ∈ dependencyOrder dependencies selected ↔ id ∈ selected := fun _ =>
    mem_dependencyOrder_iff dependencies selected
  rw [dependencyOrder_eq_self_iff, and_iff_right (nodup_dependencyOrder dependencies selected), DependenciesFirst,
    edge_congr hmem]
  constructor
  · intro hfirst a b hab hba
    exact DependenciesFirst.eq_of_reaches hfirst (fun id hid => (hmem id).mpr hid) hab hba
  · intro hcycles a b hedge hne
    exact ordered_dependencyOrder dependencies selected a b hedge hne fun hback => hne (hcycles a b (.single hedge) hback)

end KernelAudit

namespace KernelAudit.Check
open KernelAudit.Order

/-- A selection comes out in its own order exactly if it repeats no id and every selected dependency of an id
    stands before it, except for the id itself. What comes out is kept by ordering it again exactly if no two
    different selected ids depend on each other through selected ids; so it is kept if there are no cycles. -/
theorem order_keeps_ordered {m : Type → Type} (checks : List (Check m)) (ids : List String) :
    (order checks ids = ids ↔ ids.Nodup ∧ DependenciesFirst (dependenciesOf checks) ids ids) ∧
      (order checks (order checks ids) = order checks ids ↔
        ∀ a b, Reaches (dependenciesOf checks) ids a b → Reaches (dependenciesOf checks) ids b a → a = b) ∧
      ((∀ id, ¬Reaches (dependenciesOf checks) ids id id) →
        order checks (order checks ids) = order checks ids) := by
  refine ⟨dependencyOrder_eq_self_iff, dependencyOrder_idem_iff, fun hacyclic => ?_⟩
  exact dependencyOrder_idem_iff.mpr fun a b hab hba => absurd (hab.trans hba) (hacyclic a)

/-- The order of three checks that depend on one another in turn is kept. That of two checks on a cycle is
    turned around again. -/
theorem order_keeps_ordered_sample :
    (∀ id, ¬Reaches (dependenciesOf sampleChain) ["A", "B", "C"] id id) ∧
      order sampleChain (order sampleChain ["A", "B", "C"]) = order sampleChain ["A", "B", "C"] ∧
      order sampleChain ["C", "B", "A"] = ["C", "B", "A"] ∧
      order sampleChecks (order sampleChecks ["B", "C"]) ≠ order sampleChecks ["B", "C"] := by
  have hacyclic : ∀ id, ¬Reaches (dependenciesOf sampleChain) ["A", "B", "C"] id id := fun id hcycle =>
    acyclic_sampleChain id (Relation.TransGen.mono (fun _ _ hedge => dependsOn_of_mem_dependenciesOf hedge.2.2) id id hcycle)
  have hfirst : DependenciesFirst (dependenciesOf sampleChain) ["C", "B", "A"] ["C", "B", "A"] := by
    intro a b hedge _
    have hfirst : Precedes "B" "A" (["C", "B"] ++ ["A"]) := precedes_of_nodup (by decide) (by decide)
    have hsecond : Precedes "C" "B" (["C"] ++ ["B", "A"]) := precedes_of_nodup (by decide) (by decide)
    rcases dependsOn_sampleChain_iff.mp (dependsOn_of_mem_dependenciesOf hedge.2.2) with ⟨rfl, rfl⟩ | ⟨rfl, rfl⟩
    · exact hfirst
    · exact hsecond
  refine ⟨hacyclic, (order_keeps_ordered sampleChain ["A", "B", "C"]).2.2 hacyclic,
    (order_keeps_ordered sampleChain ["C", "B", "A"]).1.mpr ⟨by decide, hfirst⟩, fun hkept => ?_⟩
  have hcycle := (order_keeps_ordered sampleChecks ["B", "C"]).2.1.mp hkept "B" "C" (.single ⟨by decide, by decide, by decide⟩)
    (.single ⟨by decide, by decide, by decide⟩)
  exact absurd hcycle (by decide)

end KernelAudit.Check
