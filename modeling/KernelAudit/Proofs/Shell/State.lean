import KernelAudit.Shell.Basic
import Mathlib.Data.List.Basic

/-! The variables of a shell. A change of one variable leaves the others as they are; and when the variables that a
    function has made local are brought back, one after the other from the last to the first, each is again what it
    was before it was made local for the first time. -/

namespace KernelAudit.Shell.State

variable {s : State} {name other : String} {v : Variable}

theorem lookup_map_replace (bindings : List (String × Variable)) :
    (bindings.map fun p => if p.1 = name then (name, v) else p).lookup other =
      if other = name then (bindings.lookup name).map fun _ => v else bindings.lookup other := by
  induction bindings with
  | nil => simp
  | cons p rest ih =>
    rw [List.map_cons]
    by_cases hp : p.1 = name
    · rw [if_pos hp, List.lookup_cons, ih, List.lookup_cons, List.lookup_cons]
      by_cases hother : other = name
      · simp [hother, hp]
      · have hne : (other == name) = false := beq_eq_false_iff_ne.mpr hother
        simp [hother, hp, hne]
    · rw [if_neg hp, List.lookup_cons, ih, List.lookup_cons, List.lookup_cons]
      by_cases hother : other = name
      · have hne : (name == p.1) = false := beq_eq_false_iff_ne.mpr (Ne.symm hp)
        simp [hother, hne]
      · simp [hother]

theorem binding?_setVariable :
    (s.setVariable name v).binding? other = if other = name then some v else s.binding? other := by
  rw [binding?, setVariable]
  dsimp only
  split
  · next hany =>
    have hsome : (s.bindings.lookup name).isSome := by
      obtain ⟨p, hp, hname⟩ := List.any_eq_true.mp hany
      exact List.lookup_isSome_iff.mpr ⟨p, hp, by simpa using (of_decide_eq_true hname).symm⟩
    obtain ⟨old, hold⟩ := Option.isSome_iff_exists.mp hsome
    rw [lookup_map_replace, hold]
    rfl
  · next hnone =>
    rw [List.lookup_append, List.lookup_cons]
    by_cases hother : other = name
    · have hnew : s.bindings.lookup name = none := by
        refine List.lookup_eq_none_iff.mpr fun p hp => bne_iff_ne.mpr fun heq => hnone ?_
        exact List.any_eq_true.mpr ⟨p, hp, decide_eq_true heq.symm⟩
      simp [hother, hnew]
    · have hne : (other == name) = false := beq_eq_false_iff_ne.mpr hother
      simp [hother, hne, binding?]

theorem binding?_removeVariable :
    (s.removeVariable name).binding? other = if other = name then none else s.binding? other := by
  rw [binding?, removeVariable, binding?]
  dsimp only
  induction s.bindings with
  | nil => simp
  | cons p rest ih =>
    by_cases hp : p.1 = name
    · rw [List.filter_cons_of_neg (by simp [hp]), ih, List.lookup_cons]
      by_cases hother : other = name
      · simp [hother]
      · have hne : (other == p.1) = false := beq_eq_false_iff_ne.mpr fun heq => hother (heq.trans hp)
        rw [hne]
    · rw [List.filter_cons_of_pos (by simp [hp]), List.lookup_cons, List.lookup_cons, ih]
      by_cases hother : other = name
      · have hne : (other == p.1) = false := beq_eq_false_iff_ne.mpr fun heq => hp (heq.symm.trans hother)
        simp [hother, hother ▸ hne]
      · simp [hother]

/-- A variable that is brought back is what it was, even if that is nothing. -/
theorem binding?_restoreVariable {former : Option Variable} :
    (s.restoreVariable (name, former)).binding? other = if other = name then former else s.binding? other := by
  cases former with
  | some v => exact binding?_setVariable
  | none => exact binding?_removeVariable

/-- What was noted of a variable first is brought back last, and counts. -/
theorem binding?_foldl_restoreVariable (saved : List (String × Option Variable)) (s : State) :
    (saved.foldl restoreVariable s).binding? name = (saved.reverse.lookup name).getD (s.binding? name) := by
  induction saved generalizing s with
  | nil => rfl
  | cons p rest ih =>
    rw [List.foldl_cons, ih, binding?_restoreVariable, List.reverse_cons, List.lookup_append, List.lookup_cons]
    rcases rest.reverse.lookup name with _ | former
    · by_cases hname : name = p.1
      · simp [hname]
      · have hne : (name == p.1) = false := beq_eq_false_iff_ne.mpr hname
        simp [hname, hne]
    · rfl

end KernelAudit.Shell.State
