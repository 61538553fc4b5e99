import KernelAudit.Proofs.Report.Partition
import KernelAudit.Proofs.Xml.Document
import KernelAudit.Report.JUnit

/-! Reports as JUnit documents are documents of the grammar under a single root, whatever the texts in
    them say. A document shows the id and the texts of the result of every entry, each character as it is
    or as a reference; so it is well-formed exactly if these texts hold no character that a document may
    not hold. -/

namespace KernelAudit

open Xml (AllChars Legible Named Proper Document WellFormed)

/-! ### What a document shows -/

/-- The texts that a result comes with. -/
def CheckResult.shown : CheckResult → List String
  | .pass message _ => [message]
  | .warn message details _ | .fail message details _ => [message, details]
  | .skip reason => [reason]

/-- The texts of an entry that a document shows. -/
def Entry.shown (e : Entry) : List String := e.id :: (e.result.map CheckResult.shown).getD []

namespace JUnit

/-! ### Numbers -/

theorem allChars_toString (n : Nat) : AllChars (toString n).toList := by
  intro c hc
  rw [Nat.toString_eq_repr, Nat.toList_repr] at hc
  have hdigit := Nat.isDigit_of_mem_toDigits (by decide) (by decide) hc
  exact Xml.isChar_of_isAlphanum (by rw [Char.isAlphanum, hdigit, Bool.or_true])

theorem allChars_timeText (milliseconds : Nat) : AllChars (timeText milliseconds).toList := by
  have hpoint : AllChars ".".toList := by decide
  have hzero : Xml.IsChar '0' := by decide
  simp only [timeText, secondsText, fixedPlaces, Text.zeroPadded, String.toList_append, String.toList_ofList,
    Xml.allChars_append, allChars_toString, hpoint, and_true, true_and]
  intro c hc
  rwa [List.eq_of_mem_replicate hc]

/-! ### The tree of a report -/

theorem proper_testCase (slug : String) (e : Entry) : Proper (testCase slug e) := by
  have hcase : Named "testcase" ["name", "classname", "time"] := by decide
  have hout : Named "system-out" [] := by decide
  have hmessage : Named "failure" ["message"] ∧ Named "skipped" ["message"] := by decide
  rcases hresult : e.result with _ | result
  · rw [testCase, hresult]
    exact .empty hcase
  · rw [testCase, hresult]
    refine .node hcase fun x hx => ?_
    rw [List.mem_singleton.mp hx]
    cases result with
    | pass message d | warn message details d => exact .text hout
    | fail message details d => exact .text hmessage.1
    | skip reason => exact .empty hmessage.2

theorem proper_suite (c : Category) (entries : List Entry) : Proper (suite c entries) := by
  have hnamed : Named "testsuite" ["name", "tests", "failures", "errors", "skipped", "time"] := by decide
  refine .node hnamed fun x hx => ?_
  obtain ⟨e, -, rfl⟩ := List.mem_map.mp hx
  exact proper_testCase c.slug e

theorem proper_root (r : Report) : Proper (root r) := by
  have hnamed : Named "testsuites" ["tests", "failures", "errors", "skipped", "time"] := by decide
  refine .node hnamed fun x hx => ?_
  obtain ⟨c, -, rfl⟩ := List.mem_map.mp hx
  exact proper_suite c (r.inCategory c)

/-! ### The texts of the tree -/

theorem legible_body (result : CheckResult) : Legible (body result).texts ↔ Legible result.shown := by
  cases result with
  | pass message d => exact Iff.rfl
  | fail message details d => exact Iff.rfl
  | skip reason => exact Iff.rfl
  | warn message details d =>
    have hfixed : AllChars "WARNING: ".toList ∧ AllChars " - ".toList := by decide
    have htexts : (body (.warn message details d)).texts = ["WARNING: " ++ message ++ " - " ++ details] := rfl
    rw [htexts, CheckResult.shown]
    simp only [Xml.legible_cons, String.toList_append, Xml.allChars_append, hfixed, true_and, and_true, and_assoc]

theorem legible_testCase (c : Category) (e : Entry) : Legible (testCase c.slug e).texts ↔ Legible e.shown := by
  have hclass : AllChars ("refcheck." ++ c.slug).toList := by cases c <;> decide
  have hattributes : Legible [e.id, "refcheck." ++ c.slug, timeText e.durationMs] ↔ AllChars e.id.toList := by
    simp only [Xml.legible_cons, hclass, allChars_timeText, Xml.legible_nil, and_true]
  rw [Entry.shown, testCase, Xml.legible_cons, ← hattributes]
  rcases e.result with _ | result
  · exact (and_iff_left Xml.legible_nil).symm
  · rw [Option.map_some, Option.getD_some, ← legible_body result]
    simp only [Xml.texts, Xml.childTexts, List.map_cons, List.map_nil, Xml.legible_append, Xml.legible_nil, and_true]

theorem legible_suite (c : Category) (entries : List Entry) :
    Legible (suite c entries).texts ↔ ∀ e ∈ entries, Legible e.shown := by
  have hfixed : AllChars c.slug.toList ∧ AllChars "0".toList := by cases c <;> decide
  have hcases : Legible ((entries.map (testCase c.slug)).flatMap Xml.texts) ↔ ∀ e ∈ entries, Legible e.shown := by
    rw [Legible, List.forall_mem_flatMap, List.forall_mem_map]
    exact forall₂_congr fun e _ => legible_testCase c e
  simp only [suite, Xml.texts, Xml.childTexts_eq, List.map_cons, List.map_nil, Xml.legible_append, Xml.legible_cons,
    Xml.legible_nil, hfixed, allChars_toString, allChars_timeText, hcases, true_and, and_true]

/-- Every entry stands in the suite of its category. -/
theorem legible_root (r : Report) : Legible (root r).texts ↔ ∀ e ∈ r.entries, Legible e.shown := by
  have hzero : AllChars "0".toList := by decide
  have hsuites : Legible ((suites r).flatMap Xml.texts) ↔ ∀ e ∈ r.entries, Legible e.shown := by
    rw [Legible, suites, List.forall_mem_flatMap, List.forall_mem_map]
    constructor
    · intro h e he
      have hmem : e ∈ r.inCategory e.category := by simp [Report.inCategory, he]
      have hshown : e.category ∈ Category.all.filter fun c => !(r.inCategory c).isEmpty := by
        simpa [e.category.mem_all] using List.ne_nil_of_mem hmem
      exact (legible_suite _ _).mp (h e.category hshown) e hmem
    · intro h c _
      exact (legible_suite _ _).mpr fun e he => h e (List.mem_filter.mp he).1
  simp only [root, Xml.texts, Xml.childTexts_eq, List.map_cons, List.map_nil, Xml.legible_append, Xml.legible_cons,
    Xml.legible_nil, hzero, allChars_toString, allChars_timeText, hsuites, true_and, and_true]

theorem allChars_render (r : Report) : AllChars (render r).toList ↔ ∀ e ∈ r.entries, Legible e.shown := by
  rw [render, (proper_root r).allChars_document, legible_root]

/-- The output for a report is a document of properly nested elements under one root, in whose texts no
    mark of markup stands; and it is well-formed exactly if the ids and results of the entries hold no
    character that is not allowed in a document. -/
theorem wellFormed_render_iff (r : Report) :
    Document "testsuites" (render r).toList ∧
      (WellFormed "testsuites" (render r).toList ↔ ∀ e ∈ r.entries, Legible e.shown) := by
  have hdocument : Document "testsuites" (render r).toList := (proper_root r).document
  exact ⟨hdocument, (and_iff_right hdocument).trans (allChars_render r)⟩

/-- A message with the characters that colour it on a terminal makes a document that is not well-formed. -/
theorem not_wellFormed_colored :
    ¬WellFormed "testsuites" (render
      ⟨0, "h", "reference", [⟨"A", "check", .sort, "", some (.pass "\x1b[32mok" 1)⟩], 3⟩).toList := by
  rintro ⟨-, hchars⟩
  have hlegible := (allChars_render _).mp hchars _ List.mem_cons_self
  revert hlegible
  decide

end JUnit

end KernelAudit
