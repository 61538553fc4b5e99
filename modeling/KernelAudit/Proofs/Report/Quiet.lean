import KernelAudit.Proofs.Check.Summary
import KernelAudit.Proofs.Report.Partition
import KernelAudit.Report.Text

/-! The quiet form of a printed report. It passes over entries and over whole categories, and leaves out the
    headings and blank lines of these; what it prints is the full form of the report that holds the failures
    and warnings only. The two differ in how many entries have passed or were skipped, which is counted over
    the report that was given. -/

namespace KernelAudit

/-- The report with its failures and warnings only. -/
def Report.issues (r : Report) : Report := { r with entries := r.entries.filter Entry.isIssue }

/-! ### Counts -/

theorem Entry.isIssue_iff {e : Entry} : e.isIssue ↔ e.counted = .fail ∨ e.counted = .warn := by
  have hfail : e.counted = .fail ↔ e.status? = some .fail := counted_eq_iff nofun
  have hwarn : e.counted = .warn ↔ e.status? = some .warn := counted_eq_iff nofun
  rw [isIssue, Bool.or_eq_true, decide_eq_true_eq, decide_eq_true_eq, hfail, hwarn]

namespace Report
variable (r : Report)

theorem count_issues (way : Status) :
    r.issues.summary.count way = if way = .fail ∨ way = .warn then r.summary.count way else 0 := by
  rw [summary, summary, Summary.count_ofEntries, Summary.count_ofEntries, issues, List.countP_filter]
  split
  · next h =>
    refine List.countP_congr fun e _ => ?_
    have hissue : e.counted = way → e.isIssue := fun heq => Entry.isIssue_iff.mpr (heq ▸ h)
    rw [Bool.and_eq_true, decide_eq_true_eq]
    exact and_iff_left_of_imp hissue
  · next h =>
    refine List.countP_eq_zero.mpr fun e _ hboth => h ?_
    rw [Bool.and_eq_true, decide_eq_true_eq] at hboth
    exact hboth.1 ▸ Entry.isIssue_iff.mp hboth.2

theorem exitCode_issues : r.issues.summary.exitCode = r.summary.exitCode := by
  have hfailed : r.issues.summary.failed = r.summary.failed := r.count_issues .fail
  have hwarned : r.issues.summary.warned = r.summary.warned := r.count_issues .warn
  rw [Summary.exitCode, Summary.exitCode, hfailed, hwarned]

theorem inCategory_issues (c : Category) : r.issues.inCategory c = (r.inCategory c).filter Entry.isIssue :=
  List.filter_comm ..

end Report

namespace TextStyle

/-! ### Sections -/

/-- What is printed of a category: entries under its heading. -/
structure Section where
  category : Category
  entries : List Entry

def sectionLines (style : TextStyle) (s : Section) : List String :=
  s.category.heading :: s.entries.flatMap style.entryLines ++ [""]

/-- The categories with the entries that are shown of them, but for those of which nothing is. -/
def sections (style : TextStyle) (r : Report) : List Section :=
  (Category.all.map fun c => ⟨c, style.shown (r.inCategory c)⟩).filter (!·.entries.isEmpty)

theorem flatMap_categoryLines (style : TextStyle) (r : Report) (cs : List Category) :
    cs.flatMap (style.categoryLines r) =
      ((cs.map fun c => (⟨c, style.shown (r.inCategory c)⟩ : Section)).filter (!·.entries.isEmpty)).flatMap
        style.sectionLines := by
  induction cs with
  | nil => rfl
  | cons c cs ih =>
    rw [List.flatMap_cons, List.map_cons, ih, categoryLines]
    split
    · next hnone => rw [List.filter_cons_of_neg (by simp [hnone]), List.nil_append]
    · next hsome => rw [List.filter_cons_of_pos (by simpa using hsome), List.flatMap_cons, sectionLines]

theorem lines_eq (style : TextStyle) (r : Report) :
    style.lines r = headLines r ++ (style.sections r).flatMap style.sectionLines ++ tailLines r := by
  rw [lines, flatMap_categoryLines, sections]

/-- The sections are the issues of the report by categories; there is none without an issue. -/
structure ShowIssues (r : Report) (sections : List Section) : Prop where
  categories : (sections.map Section.category).Sublist Category.all
  nonempty : ∀ s ∈ sections, s.entries ≠ []
  entries : ∀ s ∈ sections, s.entries = (r.inCategory s.category).filter Entry.isIssue
  complete : ∀ e ∈ r.entries, e.isIssue → ∃ s ∈ sections, e ∈ s.entries

section
variable (color verbose : Bool) (r : Report)

theorem showIssues_quiet : ShowIssues r (sections ⟨color, verbose, true⟩ r) where
  categories := by
    have hall : (Category.all.map fun c => (⟨c, (r.inCategory c).filter Entry.isIssue⟩ : Section)).map
        Section.category = Category.all := rfl
    exact hall ▸ List.filter_sublist.map Section.category
  nonempty s hs := by
    have hshown := (List.mem_filter.mp hs).2
    simpa using hshown
  entries s hs := by
    obtain ⟨c, -, rfl⟩ := List.mem_map.mp (List.mem_filter.mp hs).1
    rfl
  complete e he hissue := by
    have hmem : e ∈ (r.inCategory e.category).filter Entry.isIssue := by
      simp [Report.inCategory, he, hissue]
    refine ⟨⟨e.category, _⟩, List.mem_filter.mpr ⟨List.mem_map_of_mem e.category.mem_all, ?_⟩, hmem⟩
    exact Bool.not_eq_true' _ |>.mpr (List.isEmpty_eq_false_iff.mpr (List.ne_nil_of_mem hmem))

/-- Shown in full, the issues make the same sections, and an entry has the same lines in both forms. -/
theorem flatMap_sectionLines_issues :
    (sections ⟨color, verbose, false⟩ r.issues).flatMap (sectionLines ⟨color, verbose, false⟩) =
      (sections ⟨color, verbose, true⟩ r).flatMap (sectionLines ⟨color, verbose, true⟩) := by
  have hsections : sections ⟨color, verbose, false⟩ r.issues = sections ⟨color, verbose, true⟩ r := by
    unfold sections
    simp only [shown, Report.inCategory_issues]
    rfl
  rw [hsections]
  rfl

/-! ### Lines and text -/

/-- The line that gives the exit code, and what it says. -/
def exitLine (code : Nat) : String := s!"Exit code: {code} ({exitText code})"

/-- What stands behind the line of counts. -/
def closingLines (r : Report) : List String :=
  [s!"Total time: {secondsText r.totalDurationMs.toNat 1}s", exitLine r.summary.exitCode, rule]

theorem closingLines_issues : closingLines r.issues = closingLines r := by
  rw [closingLines, closingLines, r.exitCode_issues]
  rfl

theorem countLine_congr {s t : Summary} (h : ∀ way, s.count way = t.count way) : countLine s = countLine t := by
  rcases s with ⟨passed, warned, failed, skipped, total, time⟩
  rcases t with ⟨passed', warned', failed', skipped', total', time'⟩
  obtain rfl : passed = passed' := h .pass
  obtain rfl : warned = warned' := h .warn
  obtain rfl : failed = failed' := h .fail
  obtain rfl : skipped = skipped' := h .skip
  rfl

theorem countLine_issues : countLine r.issues.summary = countLine { r.summary with passed := 0, skipped := 0 } := by
  refine countLine_congr fun way => (r.count_issues way).trans ?_
  cases way <;> rfl

theorem intercalate_append_cons {before after : List String} (hbefore : before ≠ []) (hafter : after ≠ [])
    (line : String) : "\n".intercalate (before ++ line :: after) =
      "\n".intercalate before ++ "\n" ++ line ++ "\n" ++ "\n".intercalate after := by
  have hline : line :: after = [line] ++ after := rfl
  rw [String.intercalate_append_of_ne_nil hbefore (List.cons_ne_nil _ _), hline,
    String.intercalate_append_of_ne_nil (List.cons_ne_nil _ _) hafter, String.intercalate_singleton]
  simp only [String.append_assoc]

theorem render_eq (style : TextStyle) :
    style.render r = "\n".intercalate (headLines r ++ (style.sections r).flatMap style.sectionLines ++ [rule]) ++
      "\n" ++ countLine r.summary ++ "\n" ++ "\n".intercalate (closingLines r) := by
  have hlines : style.lines r = (headLines r ++ (style.sections r).flatMap style.sectionLines ++ [rule]) ++
      countLine r.summary :: closingLines r := by
    rw [lines_eq, List.append_assoc _ [rule]]
    rfl
  rw [render, hlines, intercalate_append_cons (by simp) (by simp [closingLines])]

/-- The text ends with the line of an exit code, under which only a rule stands. -/
def EndsWithExit (code : Nat) (text : String) : Prop := ∃ front, text = front ++ "\n" ++ exitLine code ++ "\n" ++ rule

theorem endsWithExit_render (style : TextStyle) : EndsWithExit r.summary.exitCode (style.render r) := by
  obtain ⟨front, hfront, hlines⟩ : ∃ front : List String, front ≠ [] ∧
      style.lines r = front ++ exitLine r.summary.exitCode :: [rule] := by
    refine ⟨headLines r ++ Category.all.flatMap (style.categoryLines r) ++
      [rule, countLine r.summary, s!"Total time: {secondsText r.totalDurationMs.toNat 1}s"], by simp, ?_⟩
    simp [lines, tailLines, exitLine]
  refine ⟨"\n".intercalate front, ?_⟩
  rw [render, hlines, intercalate_append_cons hfront (List.cons_ne_nil _ _), String.intercalate_singleton]

/-- The quiet form of a report is the full form of the report without the entries that passed or were skipped,
    but for the numbers of these in the line of counts. So it shows each failure and each warning as the full
    form does, under the heading of its category, and no heading of a category without any; and all forms of
    both reports end with the same exit code. -/
theorem quiet_shows_issues :
    let quiet : TextStyle := ⟨color, verbose, true⟩
    let full : TextStyle := ⟨color, verbose, false⟩
    (∃ before after,
      quiet.render r = before ++ "\n" ++ countLine r.summary ++ "\n" ++ after ∧
      full.render r.issues =
        before ++ "\n" ++ countLine { r.summary with passed := 0, skipped := 0 } ++ "\n" ++ after) ∧
    (∃ sections, ShowIssues r sections ∧
      quiet.render r = "\n".intercalate (headLines r ++ sections.flatMap full.sectionLines ++ tailLines r)) ∧
    ∀ style : TextStyle, EndsWithExit r.summary.exitCode (style.render r) ∧
      EndsWithExit r.summary.exitCode (style.render r.issues) := by
  intro quiet full
  refine ⟨⟨_, _, render_eq r quiet, ?_⟩, ⟨_, showIssues_quiet color verbose r, ?_⟩, fun style => ⟨?_, ?_⟩⟩
  · rw [render_eq, flatMap_sectionLines_issues, countLine_issues, closingLines_issues]
    rfl
  · rw [render, lines_eq]
    rfl
  · exact endsWithExit_render r style
  · rw [← r.exitCode_issues]
    exact endsWithExit_render r.issues style

end

end TextStyle

end KernelAudit
