/-! The order in which selected checks run. A depth-first walk puts every selected id after the
    dependencies of it that are selected too. Each selected id comes out once, whatever is repeated,
    and where dependencies form a cycle the one that was met last on it comes first. -/

namespace KernelAudit.Order

/-- A walk is a list of tasks: to visit an id, or to put out one whose dependencies are done. -/
inductive Task where
  | visit (id : String)
  | emit (id : String)
  deriving DecidableEq, Repr

/-- The selected ids that have not been visited. -/
def unvisited (selected visited : List String) : List String := selected.filter (· ∉ visited)

theorem unvisited_cons_lt {selected visited : List String} {id : String}
    (hs : id ∈ selected) (hv : id ∉ visited) :
    (unvisited selected (id :: visited)).length < (unvisited selected visited).length := by
  have hsub : unvisited selected (id :: visited) =
      (unvisited selected visited).filter (· ≠ id) := by
    simp only [unvisited, List.filter_filter]
    congr 1
    funext x
    simp [List.mem_cons, not_or]
  rw [hsub]
  have hmem : id ∈ unvisited selected visited := by simp [unvisited, hs, hv]
  refine Nat.lt_of_le_of_ne (List.length_filter_le ..) fun h => ?_
  have := List.length_filter_eq_length_iff.mp h id hmem
  simp at this

/-- The ids that a list of tasks puts out. `dependencies` gives the dependencies of an id, of which
    only selected ones are followed. -/
def walk (dependencies : String → List String) (selected : List String) :
    List Task → (visited : List String) → List String
  | [], _ => []
  | .emit id :: rest, visited => id :: walk dependencies selected rest visited
  | .visit id :: rest, visited =>
    if h : id ∈ selected ∧ id ∉ visited then
      let first := (dependencies id).filter (· ∈ selected)
      walk dependencies selected (first.map .visit ++ .emit id :: rest) (id :: visited)
    else walk dependencies selected rest visited
termination_by tasks visited => ((unvisited selected visited).length, tasks.length)
decreasing_by
  · exact Prod.Lex.right _ (by simp)
  · exact Prod.Lex.left _ _ (unvisited_cons_lt h.1 h.2)
  · exact Prod.Lex.right _ (by simp)

end Order

/-- Every selected id once, dependencies first. -/
def dependencyOrder (dependencies : String → List String) (selected : List String) : List String :=
  Order.walk dependencies selected (selected.map .visit) []

end KernelAudit
