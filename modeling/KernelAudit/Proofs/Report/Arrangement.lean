import KernelAudit.Proofs.Json.Arrangement
import KernelAudit.Proofs.Program.Documents

/-! The documents that tell a report. Each of the three kinds of objects, for reports, for their entries and
    for results, may give its members in any order, a result its status at any place, and may hold others
    under names of their own. Every such document is loaded as the report that it tells; what is written of
    a report is the plainest of them. -/

namespace KernelAudit
open Json (Arranges Field Nested Plain)

/-! ### Results -/

namespace CheckResult

/-- The names that have a meaning beside each other in a result. -/
def declared (status : Status) : List String := "status" :: (fields status).map Field.name

/-- The value tells the result. -/
def ToldBy (r : CheckResult) : Json → Prop :=
  Arranges (declared r.status) (("status", .text r.status.name) :: r.members)

section
variable {r : CheckResult} {v : Json}

theorem ToldBy.ofJson_eq (h : r.ToldBy v) : ofJson v = .ok r := by
  obtain ⟨all, added, rfl, hperm, hadded⟩ := h
  -- Wherever the status stands, the fields and what was added are around it.
  have hstatus : ("status", Json.text r.status.name) ∈ all := hperm.mem_iff.mpr List.mem_cons_self
  obtain ⟨before, after, rfl⟩ := List.append_of_mem hstatus
  have hrest : (before ++ after).Perm (r.members ++ added) := (List.perm_middle.symm.trans hperm).cons_inv
  have hfits : Json.Fits (fields r.status) (r.members ++ added) := by
    refine (r.declared_members.fits (nodup_fields r.status)).append (fun p hp hname => ?_) fun p hp => ?_
    · exact (hadded p hp).1 (List.mem_cons_of_mem _ hname)
    · exact (hadded p hp).2.plain.isWhole
  refine r.ofJson_record (hfits.perm hrest) (fun p hp => hrest.mem_iff.mpr (List.mem_append_left _ hp)) fun p hp => ?_
  rcases List.mem_append.mp (hrest.mem_iff.mp hp) with hp | hp
  · exact r.readable_members p hp
  · obtain ⟨hnew, hnested⟩ := hadded p hp
    exact ⟨fun hname => hnew (hname ▸ List.mem_cons_self), hnested.isReadable (by decide)⟩

theorem ToldBy.plain (h : r.ToldBy v) : Plain v := Arranges.plain h r.plain_members

theorem toldBy_toJson (r : CheckResult) : r.ToldBy r.toJson := by
  rw [toJson_eq]
  exact Arranges.refl ..

end

end CheckResult

/-! ### Entries -/

namespace Entry

/-- The value tells the result of an entry, null that it has none. -/
def ResultToldBy : Option CheckResult → Json → Prop
  | none, v => v = .null
  | some r, v => r.ToldBy v

/-- The value tells the entry. -/
def ToldBy (e : Entry) (v : Json) : Prop :=
  ∃ result, ResultToldBy e.result result ∧ Arranges (fields.map Field.name) (e.membersWith result) v

section
variable {e : Entry} {v : Json}

theorem ResultToldBy.readOptional_eq {r : Option CheckResult} (h : ResultToldBy r v) :
    Json.readOptional CheckResult.ofJson v = .ok r := by
  rcases r with _ | r
  · rw [show v = .null from h]
    rfl
  · have hread : CheckResult.ofJson v = .ok r := CheckResult.ToldBy.ofJson_eq h
    obtain ⟨all, -, rfl, -⟩ := h
    exact readOptional_record hread

theorem ResultToldBy.plain {r : Option CheckResult} (h : ResultToldBy r v) : Plain v := by
  rcases r with _ | r
  · rw [show v = .null from h]
    exact .null
  · exact CheckResult.ToldBy.plain h

theorem ToldBy.ofJson_eq (h : e.ToldBy v) : ofJson v = .ok e := by
  obtain ⟨result, hresult, harranges⟩ := h
  have hread := hresult.readOptional_eq
  obtain ⟨all, rfl, hfits, hgives⟩ := harranges.fits (declared_membersWith hread) (by decide)
  exact ofJson_record hread hfits hgives

theorem ToldBy.plain (h : e.ToldBy v) : Plain v := by
  obtain ⟨result, hresult, harranges⟩ := h
  refine harranges.plain ?_
  simpa [membersWith] using ⟨.text e.id, .text e.name, .text e.category.name, .text e.description, hresult.plain⟩

theorem toldBy_toJson (e : Entry) : e.ToldBy e.toJson := by
  refine ⟨(e.result.map CheckResult.toJson).getD .null, ?_, Arranges.refl ..⟩
  rcases e.result with _ | r
  · rfl
  · exact r.toldBy_toJson

end

end Entry

/-! ### Reports -/

namespace Report

/-- The value tells the report. -/
def ToldBy (r : Report) (v : Json) : Prop :=
  ∃ checks, List.Forall₂ Entry.ToldBy r.entries checks ∧
    Arranges (fields.map Field.name) (r.membersWith (.array checks)) v

section
variable {r : Report} {v : Json}

theorem readList_of_toldBy {entries : List Entry} {checks : List Json} (h : List.Forall₂ Entry.ToldBy entries checks) :
    Json.readList Entry.ofJson (.array checks) = .ok entries := by
  have hmap : checks.mapM Entry.ofJson = .ok entries := by
    induction h with
    | nil => rfl
    | cons hentry _ ih =>
      rw [List.mapM_cons, hentry.ofJson_eq, ih]
      rfl
  rw [Json.array, Json.readList, hmap]
  rfl

theorem ToldBy.ofJson_eq (h : r.ToldBy v) : ofJson v = .ok r := by
  obtain ⟨checks, hentries, harranges⟩ := h
  have hread := readList_of_toldBy hentries
  obtain ⟨all, rfl, hfits, hgives⟩ := harranges.fits (declared_membersWith hread) (by decide)
  exact ofJson_record hread hfits hgives

theorem plain_of_toldBy {entries : List Entry} {checks : List Json} (h : List.Forall₂ Entry.ToldBy entries checks) :
    ∀ check ∈ checks, Plain check := by
  induction h with
  | nil => exact fun _ hcheck => nomatch hcheck
  | cons hentry _ ih => exact List.forall_mem_cons.mpr ⟨hentry.plain, ih⟩

theorem ToldBy.plain (h : r.ToldBy v) : Plain v := by
  obtain ⟨checks, hentries, harranges⟩ := h
  have hchecks : Plain (.array checks) := .array (plain_of_toldBy hentries)
  refine harranges.plain ?_
  simpa [membersWith] using ⟨.nat _, .text r.hostname, .text r.backend, hchecks, .nat _⟩

/-- What is written of a report tells it. -/
theorem toldBy_toJson (r : Report) : r.ToldBy r.toJson :=
  ⟨_, List.forall₂_map_right_iff.mpr (List.forall₂_same.mpr fun e _ => e.toldBy_toJson), Arranges.refl ..⟩

end

end Report

/-! ### Files -/

/-- A file that holds a text which tells a report, in either layout and with blanks behind it or without, is
    loaded as that report: in whatever order the members of its objects stand, wherever a result has its
    status, and whatever stands among them under names that the object does not declare. -/
theorem World.load_toldBy {r : Report} {v : Json} (h : r.ToldBy v) (layout : Json.Layout) {blanks : String}
    (hblanks : ∀ c ∈ blanks.toList, Json.isBlank c = true) {w : World} {path : Text.Raw}
    (hread : w.read path = .ok (Json.render layout v ++ blanks).toUTF8) :
    (system.loadBaseline path).run w = (.ok r, w) := by
  have hdecode : Baseline.decode (Json.render layout v ++ blanks) = .ok r :=
    Baseline.decode_render_append h.plain h.ofJson_eq layout hblanks
  rw [run_loadBaseline, hread, Baseline.load_text hdecode]

/-! ### A document read from its end -/

/-- A member that no object declares. -/
def sampleNote : List (String × Json) := [("note", .array [.bool true, .record [("x", .nat 7), ("x", .null)]])]

/-- An object with all members in reverse, and the note before them. -/
def Json.reversed (members : List (String × Json)) : Json := .record (members ++ sampleNote).reverse

theorem Json.arranges_reversed {declared : List String} (h : "note" ∉ declared) (members : List (String × Json)) :
    Arranges declared members (reversed members) := by
  refine Arranges.of_reverse (List.forall_mem_singleton.mpr ⟨h, .array fun v hv => ?_⟩)
  simp only [List.mem_cons, List.not_mem_nil, or_false] at hv
  rcases hv with rfl | rfl
  · exact .bool true
  · exact .record (List.forall_mem_cons.mpr ⟨.word 7, List.forall_mem_singleton.mpr .null⟩)

def sampleFailure : CheckResult := .fail "out of \"order\"" "\n" 5

def sampleEntry : Entry := ⟨"A", "check", .sort, "", some sampleFailure⟩

/-- The sample entry and the sample failure in it, all members in reverse, the status last. -/
def sampleCheck : Json :=
  .reversed (sampleEntry.membersWith (.reversed (("status", .text "fail") :: sampleFailure.members)))

theorem toldBy_sampleCheck : sampleEntry.ToldBy sampleCheck :=
  ⟨_, Json.arranges_reversed (by decide) _, Json.arranges_reversed (by decide) _⟩

/-- The document is loaded as the report, though each of its objects begins with a note and ends with what
    is written first. -/
theorem World.load_toldBy_sample :
    let report : Report := ⟨7, "h", "reference", [sampleEntry], 3⟩
    let document := Json.reversed (report.membersWith (.array [sampleCheck]))
    let written := (system.writeFile (.ofString "b") (Json.render .spread document ++ "\n")).run withNull
    report.ToldBy document ∧ (∀ c ∈ "\n".toList, Json.isBlank c = true) ∧
      written.2.read (.ofString "b") = .ok (Json.render .spread document ++ "\n").toUTF8 ∧
      (system.loadBaseline (.ofString "b")).run written.2 = (.ok report, written.2) := by
  intro report document written
  have htold : report.ToldBy document :=
    ⟨_, .cons toldBy_sampleCheck .nil, Json.arranges_reversed (by decide) _⟩
  have hblanks : ∀ c ∈ "\n".toList, Json.isBlank c = true := fun c hc => by
    rw [List.mem_singleton.mp hc]
    rfl
  have hwritten : written.1 = .ok () := eq_ok_of_isOk (by decide +kernel)
  have hread := read_write (write_of_writeFile (Prod.ext hwritten rfl)) (by decide +kernel)
  exact ⟨htold, hblanks, hread, load_toldBy htold .spread hblanks hread⟩

end KernelAudit
