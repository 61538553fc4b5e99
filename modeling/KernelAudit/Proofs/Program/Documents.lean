import KernelAudit.Proofs.Program.Saving
import KernelAudit.Report.Document

/-! JSON documents as baselines. A document holds the fields of its report at the top, and next to them a
    date and counts that a reader of baselines does not ask for. So the report is read back from the
    document in either layout, whatever the date and the counts say: the counts have a total of their own,
    but it stands inside their member, where nobody looks for the total of the report. -/

namespace KernelAudit

open Json (Layout Plain)

namespace Report

/-- The members that a document adds to those of the report. -/
def additions (date : String) (counts : Summary) : List (String × Json) :=
  [("generated_at", .text date), ("summary", counts.toJson)]

/-- The document with any date and any counts. -/
def documentWith (r : Report) (date : String) (counts : Summary) : Json :=
  .record (r.members ++ additions date counts)

theorem documentText_eq (r : Report) (layout : Layout) :
    r.documentText layout = Json.render layout (r.documentWith (timestampText r.timestamp) r.summary) := rfl

theorem plain_documentWith (r : Report) (date : String) (counts : Summary) : Plain (r.documentWith date counts) := by
  have hcounts : Plain counts.toJson := by
    refine .record ?_
    simpa using ⟨.nat _, .nat _, .nat _, .nat _, .nat _, .nat _⟩
  refine .record (List.forall_mem_append.mpr ⟨r.plain_members, ?_⟩)
  simpa [additions] using ⟨.text date, hcounts⟩

theorem ofJson_documentWith (r : Report) (date : String) (counts : Summary) :
    ofJson (r.documentWith date counts) = .ok r := by
  have hnew : ∀ p ∈ additions date counts, p.1 ∉ fields.map Json.Field.name := by
    simp only [additions, List.forall_mem_cons]
    exact ⟨by decide, by decide, nofun⟩
  have hwhole : ∀ p ∈ additions date counts, p.2.isWhole := by
    simp [additions, Summary.toJson, Json.text, Json.nat, Json.record, Json.isWhole, Json.membersWhole]
  exact r.ofJson_append hnew hwhole

end Report

/-- A document is a baseline, with blanks behind it or without. -/
theorem Baseline.decode_documentWith (r : Report) (layout : Layout) (date : String) (counts : Summary)
    {behind : String} (hblank : ∀ c ∈ behind.toList, Json.isBlank c = true) :
    decode (Json.render layout (r.documentWith date counts) ++ behind) = .ok r :=
  decode_render_append (r.plain_documentWith date counts) (r.ofJson_documentWith date counts) layout hblank

/-- A file that holds a text is loaded as what the text decodes to. -/
theorem Baseline.load_text {text : String} {r : Report} (h : decode text = .ok r) :
    load (.ok text.toUTF8) = .ok r := by
  rw [load, fromUTF8?_toUTF8]
  show (decode text).mapError LoadProblem.undecodable = .ok r
  rw [h]
  rfl

namespace World

/-- The report is decoded from its document in either layout, whatever date and counts stand in it; and when
    the document has been written to a path, it is loaded from there as the report if and only if the path
    leads to a file. The blanks may be the end of the line that is printed behind a document, or none. -/
theorem load_document_iff (r : Report) (layout : Layout) {blanks : String}
    (hblanks : ∀ c ∈ blanks.toList, Json.isBlank c = true) :
    (∀ date counts, Baseline.decode (Json.render layout (r.documentWith date counts) ++ blanks) = .ok r) ∧
      ∀ (w w' : World) (path : Text.Raw),
        (system.writeFile path (r.documentText layout ++ blanks)).run w = (.ok (), w') →
          ((system.loadBaseline path).run w' = (.ok r, w') ↔ w'.leadsToFile path = true) := by
  refine ⟨fun date counts => Baseline.decode_documentWith r layout date counts hblanks, ?_⟩
  intro w w' path hrun
  have hwrite : w.write path (r.documentText layout ++ blanks) = .ok w' := write_of_writeFile hrun
  have hdecode : Baseline.decode (r.documentText layout ++ blanks) = .ok r := by
    rw [r.documentText_eq]
    exact Baseline.decode_documentWith r layout _ _ hblanks
  refine ⟨leadsToFile_of_loadBaseline, fun hfile => ?_⟩
  rw [run_loadBaseline, read_write hwrite hfile, Baseline.load_text hdecode]

/-- A spread document, with the end of its line, that is written under a new name is loaded from there. -/
theorem load_document_sample :
    let report : Report := ⟨7, "h", "reference", [⟨"A", "\x07", .sort, "\"", some (.fail "\n" "" 5)⟩], 3⟩
    let written := (system.writeFile (.ofString "b") (report.documentText .spread ++ "\n")).run withNull
    (∀ c ∈ "\n".toList, Json.isBlank c = true) ∧ written.1 = .ok () ∧
      written.2.leadsToFile (.ofString "b") = true ∧
      (system.loadBaseline (.ofString "b")).run written.2 = (.ok report, written.2) := by
  intro report written
  have hblanks : ∀ c ∈ "\n".toList, Json.isBlank c = true := fun c hc => by
    rw [List.mem_singleton.mp hc]
    rfl
  have hwritten : written.1 = .ok () := eq_ok_of_isOk (by decide +kernel)
  have hfile : written.2.leadsToFile (.ofString "b") = true := by decide +kernel
  have hload := (load_document_iff report .spread hblanks).2 withNull written.2 (.ofString "b")
    (Prod.ext hwritten rfl)
  exact ⟨hblanks, hwritten, hfile, hload.mpr hfile⟩

end World

end KernelAudit
