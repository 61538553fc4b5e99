import KernelAudit.Shell.Pattern
import Mathlib.Data.List.Infix

/-! What patterns describe. A pattern describes the texts that are put together from what its items describe, a
    star standing for any text at all; and what is cut off a text is described by the pattern and is as short, or
    as long, as it can be. -/

namespace KernelAudit.Shell

/-- The item describes the character. -/
def PatternItem.Admits : PatternItem → Char → Prop
  | .anyRun, _ => False
  | .anyChar, _ => True
  | .set inverted members, c => (members.any (·.contains c) != inverted) = true
  | .char d, c => c = d

namespace Pattern

/-- The texts that a pattern describes. -/
inductive Describes : Pattern → List Char → Prop where
  | nil : Describes [] []
  | run (text : List Char) {p : Pattern} {cs : List Char} (h : Describes p cs) : Describes (.anyRun :: p) (text ++ cs)
  | char {item : PatternItem} {c : Char} (hc : item.Admits c) {p : Pattern} {cs : List Char} (h : Describes p cs) :
    Describes (item :: p) (c :: cs)

theorem suffixes_eq_tails {α : Type} (l : List α) : suffixes l = l.tails := by
  induction l with
  | nil => rfl
  | cons a rest ih => rw [suffixes, ih, List.tails_cons]

theorem describes_anyRun {p : Pattern} {cs : List Char} :
    Describes (.anyRun :: p) cs ↔ ∃ rest, rest <:+ cs ∧ Describes p rest := by
  constructor
  · rintro (_ | ⟨text, h⟩ | ⟨⟨⟩, -⟩)
    exact ⟨_, List.suffix_append text _, h⟩
  · rintro ⟨rest, ⟨text, rfl⟩, h⟩
    exact .run text h

section
variable {item : PatternItem} (hitem : item ≠ .anyRun) {p : Pattern} {cs : List Char}
include hitem

theorem describes_item :
    Describes (item :: p) cs ↔ ∃ c rest, cs = c :: rest ∧ item.Admits c ∧ Describes p rest := by
  constructor
  · intro h
    cases h with
    | run => exact absurd rfl hitem
    | char hc h => exact ⟨_, _, rfl, hc, h⟩
  · rintro ⟨c, rest, rfl, hc, h⟩
    exact .char hc h

theorem isMatch_item :
    isMatch (item :: p) cs = true ↔ ∃ c rest, cs = c :: rest ∧ item.Admits c ∧ isMatch p rest = true := by
  cases cs with
  | nil => cases item <;> simp [isMatch] at hitem ⊢
  | cons c cs => cases item <;> simp [isMatch, PatternItem.Admits] at hitem ⊢

end

theorem isMatch_iff (p : Pattern) (cs : List Char) : isMatch p cs = true ↔ Describes p cs := by
  induction p generalizing cs with
  | nil =>
    rw [isMatch, List.isEmpty_iff]
    constructor
    · rintro rfl
      exact .nil
    · rintro ⟨⟩
      rfl
  | cons item rest ih =>
    rcases eq_or_ne item .anyRun with rfl | hitem
    · rw [isMatch, Bool.or_eq_true, List.any_eq_true, suffixes_eq_tails, describes_anyRun]
      simp only [List.mem_tails, ih]
      -- A star at the end needs no search: what it leaves over may be empty.
      refine or_iff_right_of_imp fun hlast => ?_
      rw [List.isEmpty_iff.mp hlast]
      exact ⟨[], List.nil_suffix, .nil⟩
    · rw [isMatch_item hitem, describes_item hitem]
      simp only [ih]

/-! ### Cuts -/

/-- The last number below a bound with a property is the first one from behind. -/
theorem find?_reverse_range_eq_some {n i : Nat} {p : Nat → Bool} (h : (List.range n).reverse.find? p = some i) :
    p i = true ∧ ∀ j < n, p j = true → j ≤ i := by
  obtain ⟨hi, before, after, hsplit, hbefore⟩ := List.find?_eq_some_iff_append.mp h
  refine ⟨hi, fun j hj hp => ?_⟩
  have hrange : List.range n = after.reverse ++ i :: before.reverse := by
    rw [← List.reverse_reverse (List.range n), hsplit]
    simp
  have hordered : (after.reverse ++ i :: before.reverse).Pairwise (· < ·) := hrange ▸ List.pairwise_lt_range
  have hmem : j ∈ after.reverse ++ i :: before.reverse := hrange ▸ List.mem_range.mpr hj
  rcases List.mem_append.mp hmem with hearlier | hlater
  · exact Nat.le_of_lt ((List.pairwise_append.mp hordered).2.2 j hearlier i List.mem_cons_self)
  rcases List.mem_cons.mp hlater with rfl | hlater
  · exact Nat.le_refl _
  · have hnot := hbefore j (List.mem_reverse.mp hlater)
    rw [hp] at hnot
    cases hnot

theorem find?_range_least {n i : Nat} {p : Nat → Bool} (h : (List.range n).find? p = some i) :
    p i = true ∧ ∀ j, p j = true → i ≤ j := by
  obtain ⟨hi, -, hbefore⟩ := List.find?_range_eq_some.mp h
  refine ⟨hi, fun j hj => Nat.le_of_not_lt fun hlt => ?_⟩
  have hnot := hbefore j hlt
  rw [hj] at hnot
  cases hnot

/-- What is cut off at the front is described by the pattern; it is the longest such part, or the shortest one. -/
theorem frontCut?_spec {p : Pattern} {longest : Bool} {cs : List (Option Char)} {n : Nat}
    (h : frontCut? p longest cs = some n) :
    Describes p (firstText (cs.take n)) ∧ ∀ k ≤ cs.length, Describes p (firstText (cs.take k)) →
      if longest then k ≤ n else n ≤ k := by
  simp only [← isMatch_iff]
  cases longest with
  | true =>
    obtain ⟨hn, hmost⟩ := find?_reverse_range_eq_some h
    exact ⟨hn, fun k hk hp => hmost k (Nat.lt_succ_of_le hk) hp⟩
  | false =>
    obtain ⟨hn, hleast⟩ := find?_range_least h
    exact ⟨hn, fun k _ hp => hleast k hp⟩

/-- What is cut off at the end is described by the pattern; it begins as early as it can, or as late. -/
theorem backCut?_spec {p : Pattern} {longest : Bool} {cs : List (Option Char)} {n : Nat}
    (h : backCut? p longest cs = some n) :
    Describes p (firstText (cs.drop n)) ∧ ∀ k ≤ cs.length, Describes p (firstText (cs.drop k)) →
      if longest then n ≤ k else k ≤ n := by
  simp only [← isMatch_iff]
  cases longest with
  | true =>
    obtain ⟨hn, hleast⟩ := find?_range_least h
    exact ⟨hn, fun k _ hp => hleast k hp⟩
  | false =>
    obtain ⟨hn, hmost⟩ := find?_reverse_range_eq_some h
    exact ⟨hn, fun k hk hp => hmost k (Nat.lt_succ_of_le hk) hp⟩

end Pattern

end KernelAudit.Shell
