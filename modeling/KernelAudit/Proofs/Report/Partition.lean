import KernelAudit.Report.Basic
import Mathlib.Data.List.Perm.Basic

/-! Lists taken apart by a key. Where every element has one of the keys, the parts together hold what the list
    holds, and so it is with a report and the entries of its categories. -/

namespace KernelAudit

/-- Sorted by a key, elements are neither lost nor doubled. -/
theorem perm_flatMap_filter {α κ : Type} [DecidableEq κ] (key : α → κ) (l : List α) (keys : List κ) (h : keys.Nodup) :
    (keys.flatMap fun k => l.filter (key · = k)).Perm (l.filter (key · ∈ keys)) := by
  induction keys with
  | nil => simp
  | cons k keys ih =>
    obtain ⟨hk, hkeys⟩ := List.nodup_cons.mp h
    have hfirst : (l.filter (key · ∈ k :: keys)).filter (key · = k) = l.filter (key · = k) := by
      rw [List.filter_filter]
      refine List.filter_congr fun a _ => ?_
      by_cases ha : key a = k <;> simp [ha]
    have hothers : (l.filter (key · ∈ k :: keys)).filter (fun a => !decide (key a = k)) = l.filter (key · ∈ keys) := by
      rw [List.filter_filter]
      refine List.filter_congr fun a _ => ?_
      by_cases ha : key a = k <;> simp [ha, hk]
    have hsplit := List.filter_append_perm (key · = k) (l.filter (key · ∈ k :: keys))
    rw [hfirst, hothers] at hsplit
    exact ((List.Perm.refl _).append (ih hkeys)).trans hsplit

theorem Category.mem_all (c : Category) : c ∈ all := by cases c <;> decide

/-- Every entry of a report stands in one category, once. -/
theorem Report.perm_inCategory (r : Report) : (Category.all.flatMap r.inCategory).Perm r.entries := by
  have hperm := perm_flatMap_filter Entry.category r.entries Category.all (by decide)
  rwa [List.filter_eq_self.mpr fun e _ => decide_eq_true e.category.mem_all] at hperm

end KernelAudit
