import KernelAudit.Check.Order
import Mathlib.Logic.Relation

/-! The order in which selected checks run. The walk keeps an invariant over what it has put out, the
    tasks it still has and the ids it has visited (`Inv`): the ids whose turn to come out is pending are
    the ones under way, each of them reaches everything that lies above it, and their dependencies have
    been visited or are about to be. So what is missing when an id comes out is under way itself, and
    reaches that id. -/

namespace KernelAudit.Order

/-- `b` is a dependency of `a`, and both are selected. -/
def Edge (dependencies : String → List String) (selected : List String) (a b : String) : Prop :=
  a ∈ selected ∧ b ∈ selected ∧ b ∈ dependencies a

/-- `b` can be reached from `a` along dependencies between selected ids. -/
abbrev Reaches (dependencies : String → List String) (selected : List String) :=
  Relation.TransGen (Edge dependencies selected)

/-- Wherever `a` stands in the list, `b` stands before it. -/
def Precedes {α : Type} (b a : α) (l : List α) : Prop := ∀ before rest, l = before ++ a :: rest → b ∈ before

/-! ### Precedence in lists -/

section
variable {α : Type} {a b : α} {l l' : List α}

theorem Precedes.of_prefix (h : Precedes b a l) (hl : l' <+: l) : Precedes b a l' := by
  intro before rest heq
  obtain ⟨more, rfl⟩ := hl
  exact h before (rest ++ more) (by rw [heq, List.append_assoc, List.cons_append])

theorem Precedes.trans {c : α} (h : Precedes c b l) (h' : Precedes b a l) : Precedes c a l := by
  rintro before rest rfl
  obtain ⟨before', mid, rfl⟩ := List.append_of_mem (h' before rest rfl)
  have hc : c ∈ before' := h before' (mid ++ a :: rest) (by simp)
  exact List.mem_append_left _ hc

/-- A map that drops elements keeps the places of those whose values come from nowhere else. -/
theorem Precedes.filterMap {β : Type} {f : α → Option β} {x y : β} (h : Precedes b a l) (hb : f b = some y)
    (ha : ∀ c, f c = some x → c = a) : Precedes y x (l.filterMap f) := by
  intro before rest heq
  obtain ⟨l₁, l₂, rfl, hbefore, hrest⟩ := List.filterMap_eq_append_iff.mp heq
  obtain ⟨l₃, c, l₄, rfl, hnone, hc, -⟩ := List.filterMap_eq_cons_iff.mp hrest
  obtain rfl := ha c hc
  have hmem : b ∈ l₁ ++ l₃ := h (l₁ ++ l₃) l₄ (by rw [List.append_assoc])
  rcases List.mem_append.mp hmem with hb₁ | hb₃
  · rw [← hbefore]
    exact List.mem_filterMap.mpr ⟨b, hb₁, hb⟩
  · rw [hnone b hb₃] at hb
    cases hb

theorem precedes_of_not_mem (h : a ∉ l) : Precedes b a l := by
  rintro before rest rfl
  exact absurd (List.mem_append_right _ List.mem_cons_self) h

/-- One more element at the end has to come after what precedes it, the others keep their places. -/
theorem Precedes.snoc {c : α} (h : Precedes b a l) (hc : a = c → b ∈ l) : Precedes b a (l ++ [c]) := by
  intro before rest heq
  rcases List.eq_nil_or_concat rest with rfl | ⟨rest', z, rfl⟩
  · obtain ⟨rfl, hlast⟩ := List.append_inj' heq rfl
    exact hc (List.cons.inj hlast).1.symm
  · have heq' : l ++ [c] = (before ++ a :: rest') ++ [z] := by simpa using heq
    exact h before rest' (List.append_inj' heq' rfl).1

end

/-! ### The invariant of the walk -/

/-- The id that a task is about. -/
def Task.id : Task → String
  | .visit id => id
  | .emit id => id

/-- The ids that are under way, in the order in which they will come out. -/
def pending : List Task → List String
  | [] => []
  | .visit _ :: rest => pending rest
  | .emit id :: rest => id :: pending rest

theorem mem_pending {id : String} {tasks : List Task} : id ∈ pending tasks ↔ .emit id ∈ tasks := by
  fun_induction pending tasks <;> simp [*]

theorem pending_visits (ids : List String) (tasks : List Task) :
    pending (ids.map .visit ++ tasks) = pending tasks := by
  induction ids with
  | nil => rfl
  | cons id rest ih => exact ih

/-- An id under way below some visits is the one right behind them, or lies further down. -/
theorem visits_append_eq {ids : List String} {id x : String} {rest above below : List Task}
    (h : ids.map .visit ++ .emit id :: rest = above ++ .emit x :: below) :
    (above = ids.map .visit ∧ x = id) ∨
      ∃ mid, above = ids.map .visit ++ .emit id :: mid ∧ rest = mid ++ .emit x :: below := by
  induction ids generalizing above with
  | nil =>
    rcases above with _ | ⟨t, mid⟩
    · cases h
      exact Or.inl ⟨rfl, rfl⟩
    · obtain ⟨rfl, rfl⟩ := List.cons.inj h
      exact Or.inr ⟨mid, rfl, rfl⟩
  | cons y ids ih =>
    rcases above with _ | ⟨t, above⟩
    · cases h
    · obtain ⟨rfl, htail⟩ := List.cons.inj h
      rcases ih htail with ⟨rfl, rfl⟩ | ⟨mid, rfl, rfl⟩
      · exact Or.inl ⟨rfl, rfl⟩
      · exact Or.inr ⟨mid, rfl, rfl⟩

section
variable (dependencies : String → List String) (selected : List String)

/-- No id of the list comes out before a selected dependency of it that does not reach it. -/
def Ordered (order : List String) : Prop :=
  ∀ a b, Edge dependencies selected a b → a ≠ b → ¬Reaches dependencies selected b a → Precedes b a order

/-- What holds of a walk at any time: `done` has come out, `tasks` are left. -/
structure Inv (done : List String) (tasks : List Task) (visited : List String) : Prop where
  /-- An id is visited from when it is under way, and comes out once. -/
  visited_iff : ∀ id, id ∈ visited ↔ id ∈ done ∨ id ∈ pending tasks
  nodup : (done ++ pending tasks).Nodup
  isSelected : ∀ id ∈ visited, id ∈ selected
  /-- An id under way reaches everything that will be done before it comes out. -/
  reaches : tasks.Pairwise fun above below => ∀ id, below = .emit id → Reaches dependencies selected id above.id
  /-- The dependencies of an id under way have been visited, or are visited before it comes out. -/
  awaited : ∀ above id below, tasks = above ++ .emit id :: below →
    ∀ b, Edge dependencies selected id b → b ∈ visited ∨ .visit b ∈ above
  ordered : Ordered dependencies selected done

end

/-! ### What a step keeps -/

section
variable {dependencies : String → List String} {selected done visited : List String} {rest : List Task}
  {id : String}

/-- When an id comes out, every dependency of it that is missing is under way, so it reaches the id. -/
theorem Inv.emit (h : Inv dependencies selected done (.emit id :: rest) visited) :
    Inv dependencies selected (done ++ [id]) rest visited where
  visited_iff x := by
    rw [h.visited_iff, pending, List.mem_cons, List.mem_append, List.mem_singleton, or_assoc]
  nodup := by
    rw [List.append_assoc]
    exact h.nodup
  isSelected := h.isSelected
  reaches := (List.pairwise_cons.mp h.reaches).2
  awaited above x below heq b hb := by
    rcases h.awaited (.emit id :: above) x below (by rw [heq]; rfl) b hb with hv | hv
    · exact Or.inl hv
    · exact Or.inr (by simpa using hv)
  ordered a b hedge hne hnot := by
    refine (h.ordered a b hedge hne hnot).snoc ?_
    rintro rfl
    have hb : b ∈ visited := by
      rcases h.awaited [] a rest rfl b hedge with hv | hv
      · exact hv
      · cases hv
    rcases (h.visited_iff b).mp hb with hdone | hpending
    · exact hdone
    · rcases List.mem_cons.mp hpending with rfl | hbelow
      · exact absurd rfl hne
      · exact absurd ((List.pairwise_cons.mp h.reaches).1 _ (mem_pending.mp hbelow) b rfl) hnot

/-- An id that is visited for the first time is under way; its selected dependencies go before it. -/
theorem Inv.enter (h : Inv dependencies selected done (.visit id :: rest) visited) (hs : id ∈ selected)
    (hv : id ∉ visited) :
    Inv dependencies selected done
      (((dependencies id).filter (· ∈ selected)).map .visit ++ .emit id :: rest) (id :: visited) where
  visited_iff x := by
    rw [pending_visits, pending, List.mem_cons, List.mem_cons, h.visited_iff, pending]
    exact or_left_comm
  nodup := by
    rw [pending_visits, pending, List.perm_middle.nodup_iff, List.nodup_cons, List.mem_append]
    exact ⟨fun hmem => hv ((h.visited_iff id).mpr hmem), h.nodup⟩
  isSelected x hx := by
    rcases List.mem_cons.mp hx with rfl | hx
    · exact hs
    · exact h.isSelected x hx
  reaches := by
    obtain ⟨hbelow, hrest⟩ := List.pairwise_cons.mp h.reaches
    have hedge : ∀ t ∈ ((dependencies id).filter (· ∈ selected)).map Task.visit,
        Edge dependencies selected id t.id := by
      intro t ht
      obtain ⟨b, hb, rfl⟩ := List.mem_map.mp ht
      obtain ⟨hdep, hsel⟩ := List.mem_filter.mp hb
      exact ⟨hs, of_decide_eq_true hsel, hdep⟩
    rw [List.pairwise_append, List.pairwise_cons]
    refine ⟨?_, ⟨fun t ht x hx => hbelow t ht x hx, hrest⟩, ?_⟩
    · -- Only visits are put in front, and a visit is not under way.
      refine List.pairwise_map.mpr (List.pairwise_of_forall fun _ _ x hx => ?_)
      cases hx
    · intro t ht t' ht' x hx
      rcases List.mem_cons.mp ht' with rfl | ht'
      · cases hx
        exact .single (hedge t ht)
      · exact (hbelow t' ht' x hx).tail (hedge t ht)
  awaited above x below heq b hb := by
    rcases visits_append_eq heq with ⟨rfl, rfl⟩ | ⟨mid, rfl, rfl⟩
    · refine Or.inr (List.mem_map.mpr ⟨b, ?_, rfl⟩)
      exact List.mem_filter.mpr ⟨hb.2.2, decide_eq_true hb.2.1⟩
    · rcases h.awaited (.visit id :: mid) x below rfl b hb with hv | hv
      · exact Or.inl (List.mem_cons_of_mem _ hv)
      · rcases List.mem_cons.mp hv with heq | hv
        · cases heq
          exact Or.inl List.mem_cons_self
        · exact Or.inr (List.mem_append_right _ (List.mem_cons_of_mem _ hv))
  ordered := h.ordered

/-- A visit of an id that is visited already, or not selected, changes nothing. -/
theorem Inv.pass (h : Inv dependencies selected done (.visit id :: rest) visited)
    (hv : id ∈ selected → id ∈ visited) : Inv dependencies selected done rest visited where
  visited_iff := h.visited_iff
  nodup := h.nodup
  isSelected := h.isSelected
  reaches := (List.pairwise_cons.mp h.reaches).2
  awaited above x below heq b hb := by
    rcases h.awaited (.visit id :: above) x below (by rw [heq]; rfl) b hb with hvis | hvis
    · exact Or.inl hvis
    · rcases List.mem_cons.mp hvis with heq | hvis
      · cases heq
        exact Or.inl (hv hb.2.1)
      · exact Or.inr hvis
  ordered := h.ordered

/-! ### What a run keeps -/

/-- A walk ends with nothing left to do. Everything it was asked to visit has been visited by then, as
    far as it is selected. -/
theorem Inv.walk {tasks : List Task} (h : Inv dependencies selected done tasks visited) :
    ∃ visited', Inv dependencies selected (done ++ Order.walk dependencies selected tasks visited) [] visited' ∧
      visited ⊆ visited' ∧ ∀ x ∈ selected, .visit x ∈ tasks → x ∈ visited' := by
  fun_induction Order.walk dependencies selected tasks visited generalizing done with
  | case1 visited =>
    refine ⟨visited, by simpa using h, fun _ hx => hx, fun x _ hx => ?_⟩
    cases hx
  | case2 id rest visited ih =>
    obtain ⟨visited', hinv, hsub, hall⟩ := ih h.emit
    refine ⟨visited', by simpa using hinv, hsub, fun x hx hmem => hall x hx ?_⟩
    simpa using hmem
  | case3 id rest visited hnew first =>
    rename_i ih
    obtain ⟨visited', hinv, hsub, hall⟩ := ih (h.enter hnew.1 hnew.2)
    refine ⟨visited', hinv, fun x hx => hsub (List.mem_cons_of_mem _ hx), fun x hx hmem => ?_⟩
    rcases List.mem_cons.mp hmem with heq | hmem
    · cases heq
      exact hsub List.mem_cons_self
    · exact hall x hx (List.mem_append_right _ (List.mem_cons_of_mem _ hmem))
  | case4 id rest visited hold ih =>
    have hv : id ∈ selected → id ∈ visited := fun hs =>
      Decidable.byContradiction fun hv => hold ⟨hs, hv⟩
    obtain ⟨visited', hinv, hsub, hall⟩ := ih (h.pass hv)
    refine ⟨visited', hinv, hsub, fun x hx hmem => ?_⟩
    rcases List.mem_cons.mp hmem with heq | hmem
    · cases heq
      exact hsub (hv hx)
    · exact hall x hx hmem

end

/-- Before the first step all that is left is to visit the selected ids. -/
theorem Inv.initial (dependencies : String → List String) (selected : List String) :
    Inv dependencies selected [] (selected.map .visit) [] := by
  have hnone : pending (selected.map .visit) = [] := by
    rw [← List.append_nil (selected.map Task.visit), pending_visits]
    rfl
  refine ⟨fun x => by simp [hnone], by simp [hnone], fun x hx => (List.not_mem_nil hx).elim, ?_, ?_, ?_⟩
  · exact List.pairwise_map.mpr (List.pairwise_of_forall fun _ _ _ hx => by cases hx)
  · intro above x below heq
    have hmem : Task.emit x ∈ selected.map Task.visit := by
      rw [heq]
      exact List.mem_append_right _ List.mem_cons_self
    obtain ⟨_, -, hx⟩ := List.mem_map.mp hmem
    cases hx
  · intro a b _ _ _ before rest heq
    have := congrArg List.length heq
    simp at this

/-! ### Selections that are in order -/

/-- Every selected dependency of an id stands before it, except for the id itself. -/
def DependenciesFirst (dependencies : String → List String) (selected order : List String) : Prop :=
  ∀ a b, Edge dependencies selected a b → a ≠ b → Precedes b a order

section
variable {dependencies : String → List String} {selected visited : List String}

/-- Visits of ids that are visited already change nothing. -/
theorem walk_visits_of_visited {ids : List String} (h : ∀ id ∈ ids, id ∈ visited) (tasks : List Task) :
    walk dependencies selected (ids.map .visit ++ tasks) visited = walk dependencies selected tasks visited := by
  induction ids with
  | nil => rfl
  | cons id ids ih =>
    have hid : ¬(id ∈ selected ∧ id ∉ visited) := fun hnew => hnew.2 (h id List.mem_cons_self)
    rw [List.map_cons, List.cons_append, walk, dif_neg hid]
    exact ih fun x hx => h x (List.mem_cons_of_mem _ hx)

/-- An id whose selected dependencies have been visited comes out at once. -/
theorem walk_visit_of_visited {id : String} (hid : id ∈ selected) (hnew : id ∉ visited)
    (hdeps : ∀ x ∈ (dependencies id).filter (· ∈ selected), x ∈ id :: visited) (tasks : List Task) :
    walk dependencies selected (.visit id :: tasks) visited =
      id :: walk dependencies selected tasks (id :: visited) := by
  rw [walk, dif_pos ⟨hid, hnew⟩, walk_visits_of_visited hdeps, walk]

/-- What is left of a selection in which dependencies come first is walked as it stands. -/
theorem walk_visits_eq_self (hnodup : selected.Nodup)
    (hfirst : DependenciesFirst dependencies selected selected) {before rest : List String}
    (hsel : selected = before ++ rest) (hvisited : ∀ id, id ∈ visited ↔ id ∈ before) :
    walk dependencies selected (rest.map .visit) visited = rest := by
  induction rest generalizing before visited with
  | nil => rw [List.map_nil, walk]
  | cons id rest ih =>
    have hmem : id ∈ selected := by simp [hsel]
    have hnew : id ∉ visited := by
      rw [hvisited]
      rw [hsel, List.nodup_append] at hnodup
      exact fun hid => hnodup.2.2 id hid id List.mem_cons_self rfl
    have hdeps : ∀ b ∈ (dependencies id).filter (· ∈ selected), b ∈ id :: visited := by
      intro b hb
      obtain ⟨hdep, hb⟩ := List.mem_filter.mp hb
      by_cases hne : id = b
      · exact hne ▸ List.mem_cons_self
      · have hbefore := hfirst id b ⟨hmem, of_decide_eq_true hb, hdep⟩ hne before rest hsel
        exact List.mem_cons_of_mem _ ((hvisited b).mpr hbefore)
    rw [List.map_cons, walk_visit_of_visited hmem hnew hdeps]
    have hnext : selected = (before ++ [id]) ++ rest := by rw [hsel, List.append_assoc, List.singleton_append]
    refine congrArg (id :: ·) (ih hnext fun x => ?_)
    rw [List.mem_cons, hvisited, List.mem_append, List.mem_singleton, or_comm]

end

/-! ### Parts of a selection -/

section
variable {dependencies dependencies' : String → List String} {selected : List String} {part : String → Bool}

theorem filter_visits_eq_self {ids : List String} (h : ∀ id ∈ ids, part id = true) :
    (ids.map Task.visit).filter (fun t => part t.id) = ids.map .visit :=
  List.filter_eq_self.mpr fun t ht => by
    obtain ⟨id, hid, rfl⟩ := List.mem_map.mp ht
    exact h id hid

theorem filter_visits_eq_nil {ids : List String} (h : ∀ id ∈ ids, part id = false) :
    (ids.map Task.visit).filter (fun t => part t.id) = [] :=
  List.filter_eq_nil_iff.mpr fun t ht => by
    obtain ⟨id, hid, rfl⟩ := List.mem_map.mp ht
    exact Bool.eq_false_iff.mp (h id hid)

/-- Where no dependency leads out of a part of a selection or into it, a walk puts the part out as it would
    if nothing else were selected. -/
theorem filter_walk (hsame : ∀ a, part a = true → dependencies' a = dependencies a)
    (hclosed : ∀ a b, b ∈ dependencies a → part b = part a) (tasks : List Task) (visited : List String) :
    (walk dependencies selected tasks visited).filter part =
      walk dependencies' (selected.filter part) (tasks.filter fun t => part t.id) (visited.filter part) := by
  fun_induction walk dependencies selected tasks visited with
  | case1 visited => rw [List.filter_nil, List.filter_nil, walk]
  | case2 id rest visited ih =>
    cases hid : part id with
    | true => simp only [List.filter_cons, Task.id, hid, if_true, walk, ih]
    | false => simp only [List.filter_cons, Task.id, hid, Bool.false_eq_true, if_false, ih]
  | case3 id rest visited hnew first ih =>
    have hfirst : ∀ b ∈ first, part b = part id := fun b hb => hclosed id b (List.mem_filter.mp hb).1
    rw [ih, List.filter_append]
    cases hid : part id with
    | true =>
      have hnew' : id ∈ selected.filter part ∧ id ∉ visited.filter part :=
        ⟨List.mem_filter.mpr ⟨hnew.1, hid⟩, fun hmem => hnew.2 (List.mem_filter.mp hmem).1⟩
      have hdeps : (dependencies' id).filter (· ∈ selected.filter part) = first := by
        rw [hsame id hid]
        refine List.filter_congr fun b hb => decide_eq_decide.mpr ?_
        rw [List.mem_filter, hclosed id b hb, hid]
        exact and_iff_left rfl
      rw [filter_visits_eq_self fun b hb => (hfirst b hb).trans hid]
      simp only [List.filter_cons, Task.id, hid, if_true]
      rw [walk, dif_pos hnew', hdeps]
    | false =>
      rw [filter_visits_eq_nil fun b hb => (hfirst b hb).trans hid, List.nil_append]
      simp only [List.filter_cons, Task.id, hid, Bool.false_eq_true, if_false]
  | case4 id rest visited hold ih =>
    rw [ih]
    cases hid : part id with
    | true =>
      have hold' : ¬(id ∈ selected.filter part ∧ id ∉ visited.filter part) := by
        rintro ⟨hsel, hvis⟩
        exact hold ⟨(List.mem_filter.mp hsel).1, fun hmem => hvis (List.mem_filter.mpr ⟨hmem, hid⟩)⟩
      simp only [List.filter_cons, Task.id, hid, if_true]
      rw [walk, dif_neg hold']
    | false => simp only [List.filter_cons, Task.id, hid, Bool.false_eq_true, if_false]

end

end KernelAudit.Order

namespace KernelAudit
open KernelAudit.Order

variable (dependencies : String → List String) (selected : List String)

/-- The order is what a walk from scratch has put out in the end, when every selected id is visited. -/
theorem dependencyOrder_inv :
    ∃ visited, Inv dependencies selected (dependencyOrder dependencies selected) [] visited ∧
      ∀ id ∈ selected, id ∈ visited := by
  obtain ⟨visited, hinv, -, hall⟩ := (Inv.initial dependencies selected).walk
  exact ⟨visited, hinv, fun id hid => hall id hid (List.mem_map.mpr ⟨id, hid, rfl⟩)⟩

theorem nodup_dependencyOrder : (dependencyOrder dependencies selected).Nodup := by
  obtain ⟨_, hinv, -⟩ := dependencyOrder_inv dependencies selected
  simpa [pending] using hinv.nodup

theorem mem_dependencyOrder_iff {id : String} : id ∈ dependencyOrder dependencies selected ↔ id ∈ selected := by
  obtain ⟨visited, hinv, hall⟩ := dependencyOrder_inv dependencies selected
  constructor
  · intro hid
    exact hinv.isSelected id ((hinv.visited_iff id).mpr (Or.inl hid))
  · intro hid
    rcases (hinv.visited_iff id).mp (hall id hid) with hdone | hpending
    · exact hdone
    · cases hpending

theorem ordered_dependencyOrder : Ordered dependencies selected (dependencyOrder dependencies selected) := by
  obtain ⟨_, hinv, -⟩ := dependencyOrder_inv dependencies selected
  exact hinv.ordered

variable {dependencies selected} in
/-- A selection in which dependencies come first is its own order. -/
theorem dependencyOrder_eq_self (hnodup : selected.Nodup) (hfirst : DependenciesFirst dependencies selected selected) :
    dependencyOrder dependencies selected = selected :=
  walk_visits_eq_self hnodup hfirst (List.nil_append _).symm fun _ => Iff.rfl

variable {dependencies selected} in
/-- The order of a part of a selection that no dependency crosses is the order of the part alone. -/
theorem filter_dependencyOrder {dependencies' : String → List String} {part : String → Bool}
    (hsame : ∀ a, part a = true → dependencies' a = dependencies a)
    (hclosed : ∀ a b, b ∈ dependencies a → part b = part a) :
    (dependencyOrder dependencies selected).filter part = dependencyOrder dependencies' (selected.filter part) := by
  have htasks : (selected.map Task.visit).filter (fun t => part t.id) = (selected.filter part).map .visit := by
    rw [List.filter_map]
    rfl
  rw [dependencyOrder, filter_walk hsame hclosed, htasks, List.filter_nil, dependencyOrder]

end KernelAudit
