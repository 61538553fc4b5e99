import Mathlib
import KernelAudit.Proofs.Check.Summary
import KernelAudit.Proofs.Report.JUnit
import KernelAudit.Proofs.Xml.Reading

/-! What a reader of JUnit documents counts. Every entry stands once in the suite of its category, and the
    numbers that a suite declares are those of the elements in it. The document declares the sums of its
    suites' numbers, but for the skipped entries: there it takes in those without a result, and the suites
    do not. All of Mathlib is imported, as no part of it brings in what is known of `String.toNat?`. -/

namespace KernelAudit

open Xml (Outline outline outlines read?)

/-! ### Elements and numbers -/

namespace Xml.Outline

/-- The value of an attribute that is a number. -/
def number? (key : String) (x : Outline) : Option Nat := (x.attribute? key).bind String.toNat?

/-- The sum of an attribute over elements. -/
def total (key : String) (xs : List Outline) : Nat := (xs.map fun x => (x.number? key).getD 0).sum

theorem number?_of_attribute? {x : Outline} {key : String} {n : Nat} (h : x.attribute? key = some (toString n)) :
    x.number? key = some n := by
  rw [number?, h, Option.bind_some, Nat.toString_eq_repr, Nat.toNat?_repr]

theorem count_eq (name : String) (x : Outline) : x.count name = countAll name x.inside := by
  cases x
  rw [count]
  rfl

theorem countAll_eq (name : String) (xs : List Outline) :
    countAll name xs = (xs.map fun x => (if x.name = name then 1 else 0) + x.count name).sum := by
  induction xs with
  | nil => rw [countAll, List.map_nil, List.sum_nil]
  | cons x rest ih => rw [countAll, ih, List.map_cons, List.sum_cons]

end Xml.Outline

namespace JUnit

open Xml.Outline (number? number?_of_attribute? total countAll)

/-! ### Test cases -/

/-- The name of the element in which a test case shows how it went. -/
def shownName : Status → String
  | .pass | .warn => "system-out"
  | .fail => "failure"
  | .skip => "skipped"

theorem shownName_ne_testcase (way : Status) : shownName way ≠ "testcase" := by cases way <;> decide

/-- Failures and skips are shown by elements of their own. -/
theorem shownName_eq_iff {way other : Status} (h : way ∈ [.fail, .skip]) :
    shownName other = shownName way ↔ other = way := by
  revert h
  cases way <;> cases other <;> decide

theorem name_body (result : CheckResult) : (body result).outline.name = shownName result.status := by
  cases result <;> rfl

theorem count_body (name : String) (result : CheckResult) : (body result).outline.count name = 0 := by
  cases result <;> rfl

section
variable (suite : String) (e : Entry)

theorem name_testCase : (testCase suite e).outline.name = "testcase" := by
  rw [testCase]
  rcases e.result with _ | result <;> rfl

theorem attribute?_testCase : (testCase suite e).outline.attribute? "name" = some e.id := by
  rw [testCase]
  rcases e.result with _ | result <;> rfl

theorem count_testCase (name : String) :
    (testCase suite e).outline.count name = if e.status?.map shownName = some name then 1 else 0 := by
  rw [testCase, Entry.status?]
  rcases e.result with _ | result
  · rfl
  · have hcount : ((if (body result).outline.name = name then 1 else 0) + (body result).outline.count name + 0 : Nat) =
        if some (shownName result.status) = some name then 1 else 0 := by
      rw [count_body, name_body]
      simp only [Option.some.injEq, Nat.add_zero]
    exact hcount

end

/-! ### Suites -/

section
variable (c : Category) (entries : List Entry)

theorem inside_suite : (suite c entries).outline.inside = entries.map fun e => (testCase c.slug e).outline := by
  have hinside : (suite c entries).outline.inside = outlines (entries.map (testCase c.slug)) := rfl
  rw [hinside, Xml.outlines_eq, List.map_map]
  rfl

theorem count_suite {name : String} {p : Entry → Bool}
    (h : ∀ e, (if "testcase" = name then 1 else 0) + (testCase c.slug e).outline.count name = if p e then 1 else 0) :
    (suite c entries).outline.count name = entries.countP p := by
  rw [Xml.Outline.count_eq, inside_suite, Xml.Outline.countAll_eq, List.map_map]
  simp only [Function.comp_def, name_testCase, h]
  induction entries with
  | nil => rfl
  | cons e rest ih => rw [List.map_cons, List.sum_cons, ih, List.countP_cons, Nat.add_comm]

theorem count_testcases : (suite c entries).outline.count "testcase" = entries.length := by
  rw [← List.countP_true]
  refine count_suite c entries fun e => ?_
  have hother : e.status?.map shownName ≠ some "testcase" := by
    rcases e.status? with _ | way
    · nofun
    · exact fun h => shownName_ne_testcase way (Option.some.inj h)
  rw [count_testCase, if_pos rfl, if_neg hother, if_pos rfl]

theorem count_shown (way : Status) (h : way ∈ [.fail, .skip]) :
    (suite c entries).outline.count (shownName way) = countOf entries way := by
  refine count_suite c entries fun e => ?_
  have hshown : e.status?.map shownName = some (shownName way) ↔ e.status? = some way := by
    rcases e.status? with _ | other
    · simp
    · rw [Option.map_some, Option.some_inj, Option.some_inj, shownName_eq_iff h]
  rw [if_neg (shownName_ne_testcase way).symm, count_testCase]
  simp only [hshown, Nat.zero_add, decide_eq_true_eq]

/-- A reader sees the entries in the suite of a category, and the suite declares what is in it. -/
structure Shows (c : Category) (entries : List Entry) (x : Outline) : Prop where
  name : x.name = "testsuite"
  category : x.attribute? "name" = some c.slug
  testCases : x.inside.map (fun y => (y.name, y.attribute? "name")) = entries.map fun e => ("testcase", some e.id)
  count : x.count "testcase" = entries.length
  tests : x.number? "tests" = some (x.count "testcase")
  failures : x.number? "failures" = some (x.count "failure")
  skipped : x.number? "skipped" = some (x.count "skipped")

theorem shows_suite : Shows c entries (suite c entries).outline where
  name := rfl
  category := rfl
  testCases := by
    rw [inside_suite, List.map_map]
    simp only [Function.comp_def, name_testCase, attribute?_testCase]
  count := count_testcases c entries
  tests := by
    rw [count_testcases]
    exact number?_of_attribute? rfl
  failures := by
    have hcount : (suite c entries).outline.count "failure" = countOf entries .fail :=
      count_shown c entries .fail (by decide)
    rw [hcount]
    exact number?_of_attribute? rfl
  skipped := by
    have hcount : (suite c entries).outline.count "skipped" = countOf entries .skip :=
      count_shown c entries .skip (by decide)
    rw [hcount]
    exact number?_of_attribute? rfl

end

/-! ### The root -/

/-- The categories that have a suite. -/
def shownCategories (r : Report) : List Category := Category.all.filter fun c => !(r.inCategory c).isEmpty

theorem inside_root (r : Report) :
    (root r).outline.inside = (shownCategories r).map fun c => (suite c (r.inCategory c)).outline := by
  have hinside : (root r).outline.inside = outlines (suites r) := rfl
  rw [hinside, Xml.outlines_eq, suites, List.map_map]
  rfl

theorem sum_map_filter {α : Type} {f : α → Nat} {p : α → Bool} {l : List α}
    (h : ∀ a ∈ l, p a = false → f a = 0) : ((l.filter p).map f).sum = (l.map f).sum := by
  induction l with
  | nil => rfl
  | cons a rest ih =>
    obtain ⟨ha, hrest⟩ := List.forall_mem_cons.mp h
    rcases hp : p a with _ | _
    · rw [List.filter_cons_of_neg (by simp [hp]), ih hrest, List.map_cons, List.sum_cons, ha hp, Nat.zero_add]
    · rw [List.filter_cons_of_pos hp, List.map_cons, List.map_cons, List.sum_cons, List.sum_cons, ih hrest]

/-- Every entry is in the suite of one category. -/
theorem sum_shownCategories (r : Report) (p : Entry → Bool) :
    ((shownCategories r).map fun c => (r.inCategory c).countP p).sum = r.entries.countP p := by
  have hempty : ∀ c ∈ Category.all, (!(r.inCategory c).isEmpty) = false → (r.inCategory c).countP p = 0 := by
    intro c _ h
    rw [Bool.not_eq_false_eq_eq_true, List.isEmpty_iff] at h
    rw [h, List.countP_nil]
  rw [shownCategories, sum_map_filter hempty, ← r.perm_inCategory.countP_eq, List.countP_flatMap]
  rfl

/-! ### Totals -/

theorem total_inside_root {r : Report} {key : String} {p : Entry → Bool}
    (h : ∀ c, (suite c (r.inCategory c)).outline.number? key = some ((r.inCategory c).countP p)) :
    total key (root r).outline.inside = r.entries.countP p := by
  rw [total, inside_root, List.map_map, ← sum_shownCategories]
  simp only [Function.comp_def, h, Option.getD_some]

theorem count_root_testcase (r : Report) : (root r).outline.count "testcase" = r.entries.length := by
  have hname : ∀ c, (suite c (r.inCategory c)).outline.name ≠ "testcase" := fun c => by
    rw [(shows_suite c _).name]
    decide
  rw [← List.countP_true, ← sum_shownCategories, Xml.Outline.count_eq, inside_root, Xml.Outline.countAll_eq,
    List.map_map]
  simp only [Function.comp_def, hname, if_false, count_testcases, List.countP_true, Nat.zero_add]

theorem forall₂_shows (r : Report) :
    List.Forall₂ (fun c x => Shows c (r.inCategory c) x) (shownCategories r) (root r).outline.inside := by
  rw [inside_root, List.forall₂_map_right_iff, List.forall₂_same]
  exact fun c _ => shows_suite c _

theorem total_skipped (r : Report) :
    total "skipped" (root r).outline.inside = r.entries.countP (·.status? = some .skip) :=
  total_inside_root fun _ => number?_of_attribute? rfl

/-- The document for a report is read as a root with a suite for every category that has entries, in the order
    of the categories, in which the entries stand in the order of the report; and each suite declares what is
    in it. The root declares the sums of what its suites declare, except that it counts the entries without a
    result as skipped too. -/
theorem shows_report (r : Report) :
    ∃ x, read? (render r) = some x ∧ x.name = "testsuites" ∧
      List.Forall₂ (fun c y => Shows c (r.inCategory c) y) (shownCategories r) x.inside ∧
      x.count "testcase" = r.entries.length ∧
      x.number? "tests" = some (total "tests" x.inside) ∧
      x.number? "failures" = some (total "failures" x.inside) ∧
      x.number? "skipped" = some (total "skipped" x.inside + r.entries.countP (·.result.isNone)) := by
  refine ⟨(root r).outline, (proper_root r).read?_document, rfl, forall₂_shows r, count_root_testcase r, ?_⟩
  refine ⟨?_, ?_, ?_⟩
  · have htotal : total "tests" (root r).outline.inside = r.entries.countP fun _ => true := by
      refine total_inside_root fun c => ?_
      rw [List.countP_true]
      exact number?_of_attribute? rfl
    rw [htotal, List.countP_true, ← Summary.total_ofEntries]
    exact number?_of_attribute? rfl
  · have htotal : total "failures" (root r).outline.inside = r.entries.countP (·.status? = some .fail) :=
      total_inside_root fun c => number?_of_attribute? rfl
    rw [htotal, ← Summary.failed_ofEntries]
    exact number?_of_attribute? rfl
  · rw [total_skipped, ← Summary.skipped_ofEntries]
    exact number?_of_attribute? rfl

/-- An entry without a result is counted as skipped by the root, and not by its suite, where nothing says so. -/
theorem not_skipped_total :
    ∃ x, read? (render ⟨0, "h", "reference", [⟨"A", "check", .sort, "", none⟩], 3⟩) = some x ∧
      x.number? "skipped" = some 1 ∧ total "skipped" x.inside = 0 ∧ x.count "skipped" = 0 :=
  ⟨_, (proper_root _).read?_document, number?_of_attribute? rfl, total_skipped _, rfl⟩

end JUnit

end KernelAudit
