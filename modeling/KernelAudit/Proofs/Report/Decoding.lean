import KernelAudit.Proofs.Json.Fields
import KernelAudit.Report.Baseline

/-! Reports are read back from what is written of them: results by their status, entries, and whole
    reports with the file that keeps them. What is read at each level depends on the values that are given
    for the fields and not on where they stand, so each level has a lemma about members that give them. -/

namespace KernelAudit

open Json (Declared Field keyed readText readWord readText_text readWord_nat required_of_lookup)

/-! ### Results -/

namespace CheckResult

theorem readStatus_name (s : Status) : readStatus (.text s.name) = .ok s := by cases s <;> rfl

/-- The members of a result that stand behind its status. -/
def members : CheckResult → List (String × Json)
  | .pass message d => [("message", .text message), ("duration_ms", .nat d.toNat)]
  | .warn message details d | .fail message details d =>
    [("message", .text message), ("details", .text details), ("duration_ms", .nat d.toNat)]
  | .skip reason => [("reason", .text reason)]

theorem toJson_eq (r : CheckResult) : r.toJson = .record (("status", .text r.status.name) :: r.members) := by
  cases r <;> rfl

theorem nodup_fields (s : Status) : ((fields s).map Field.name).Nodup := by cases s <;> decide

theorem declared_members (r : CheckResult) : Declared (fields r.status) r.members := by
  have htext : ∀ name s, (Field.of name readText).check (.text s) = .ok () :=
    fun name s => Field.check_of name (readText_text s)
  have hword : ∀ (name : String) (d : UInt64), (Field.of name readWord).check (.nat d.toNat) = .ok () :=
    fun name d => Field.check_of name (readWord_nat d)
  cases r with
  | pass message d => exact .cons ⟨rfl, htext _ _⟩ (.cons ⟨rfl, hword _ _⟩ .nil)
  | warn message details d | fail message details d =>
    exact .cons ⟨rfl, htext _ _⟩ (.cons ⟨rfl, htext _ _⟩ (.cons ⟨rfl, hword _ _⟩ .nil))
  | skip reason => exact .cons ⟨rfl, htext _ _⟩ .nil

/-- A result is read from values that give each of its fields the value it has there. -/
theorem ofValues_of_lookup (r : CheckResult) {values : Json.FieldValues}
    (h : ∀ p ∈ r.members, values.lookup p.1 = some p.2) : ofValues values r.status = .ok r := by
  cases r with
  | pass message d =>
    simp only [members, List.forall_mem_cons] at h
    obtain ⟨hmessage, hduration, -⟩ := h
    rw [status, ofValues, required_of_lookup hmessage (readText_text message), ok_bind,
      required_of_lookup hduration (readWord_nat d)]
    rfl
  | warn message details d | fail message details d =>
    simp only [members, List.forall_mem_cons] at h
    obtain ⟨hmessage, hdetails, hduration, -⟩ := h
    rw [status, ofValues, required_of_lookup hmessage (readText_text message), ok_bind,
      required_of_lookup hdetails (readText_text details), ok_bind, required_of_lookup hduration (readWord_nat d)]
    rfl
  | skip reason =>
    simp only [members, List.forall_mem_cons] at h
    rw [status, ofValues, required_of_lookup h.1 (readText_text reason)]
    rfl

/-- Members that a reader can take in do not change what is found of the status behind them. -/
theorem findStatus_keyed_append {found : Option Status} {members : List (String × Json)}
    (h : ∀ p ∈ members, p.1 ≠ "status" ∧ p.2.isReadable memberDepth) (rest : List (Option String × Json)) :
    findStatus found (keyed members ++ rest) = findStatus found rest := by
  induction members with
  | nil => rfl
  | cons p members ih =>
    obtain ⟨⟨hname, hreadable⟩, hrest⟩ := List.forall_mem_cons.mp h
    rw [Json.keyed_cons, List.cons_append, findStatus, if_neg hname, hreadable]
    exact ih hrest

theorem readable_members (r : CheckResult) :
    ∀ p ∈ r.members, p.1 ≠ "status" ∧ p.2.isReadable memberDepth := by
  have htext : ∀ s, (Json.text s).isReadable memberDepth = true := by
    intro s
    rw [Json.text, Json.isReadable]
    rfl
  have hword : ∀ d : UInt64, (Json.nat d.toNat).isReadable memberDepth = true := by
    intro d
    rw [Json.nat, Json.isReadable, Numeral.kind_ofNat d.toNat_lt]
    rfl
  cases r <;> simp [members, htext, hword]

/-- Once the status is known, the members without it are read as the fields that go with it. -/
theorem ofJson_object {members others : List (Option String × Json)} {s : Status}
    (hfound : findStatus none members = .ok (some s))
    (hothers : members.filter (fun (name, _) => name ≠ some "status") = others) :
    ofJson (.object members true) = (do
      let values ← Json.readRecord (title s) (fields s) (.object others true)
      ofValues values s) := by
  rw [ofJson, hfound, ← hothers]
  rfl

/-- Without the status all other members are left. -/
theorem filter_keyed {members : List (String × Json)} (h : ∀ p ∈ members, p.1 ≠ "status" ∧ p.2.isReadable memberDepth) :
    (keyed members).filter (fun (name, _) => name ≠ some "status") = keyed members := by
  refine List.filter_eq_self.mpr fun q hq => ?_
  obtain ⟨p, hp, rfl⟩ := List.mem_map.mp hq
  simpa using (h p hp).1

/-- A result is read from its status and its fields, wherever they stand. -/
theorem ofJson_record (r : CheckResult) {before after : List (String × Json)}
    (hfits : Json.Fits (fields r.status) (before ++ after)) (hgives : r.members ⊆ before ++ after)
    (hreadable : ∀ p ∈ before ++ after, p.1 ≠ "status" ∧ p.2.isReadable memberDepth) :
    ofJson (.record (before ++ ("status", .text r.status.name) :: after)) = .ok r := by
  obtain ⟨hbefore, hafter⟩ := List.forall_mem_append.mp hreadable
  have hrecord : Json.record (before ++ ("status", .text r.status.name) :: after) =
      .object (keyed before ++ (some "status", .text r.status.name) :: keyed after) true :=
    congrArg (Json.object · true) (List.map_append ..)
  have hfound : findStatus none (keyed before ++ (some "status", .text r.status.name) :: keyed after) =
      .ok (some r.status) := by
    have hrest : findStatus (some r.status) (keyed after ++ []) = findStatus (some r.status) [] :=
      findStatus_keyed_append hafter []
    rw [List.append_nil] at hrest
    rw [findStatus_keyed_append hbefore, findStatus, if_pos rfl, readStatus_name]
    exact hrest
  have hothers : (keyed before ++ (some "status", Json.text r.status.name) :: keyed after).filter
      (fun (name, _) => name ≠ some "status") = keyed (before ++ after) := by
    rw [List.filter_append, filter_keyed hbefore, List.filter_cons_of_neg (by simp), filter_keyed hafter]
    exact (List.map_append ..).symm
  have hread : Json.readRecord (title r.status) (fields r.status) (.object (keyed (before ++ after)) true) =
      .ok (before ++ after) := Json.readRecord_record _ hfits
  rw [hrecord, ofJson_object hfound hothers, hread]
  exact r.ofValues_of_lookup (hfits.lookup_declared r.declared_members hgives)

theorem ofJson_toJson (r : CheckResult) : ofJson r.toJson = .ok r := by
  rw [toJson_eq]
  exact @ofJson_record r [] r.members (r.declared_members.fits (nodup_fields r.status)) (List.Subset.refl _)
    r.readable_members

end CheckResult

/-! ### Entries -/

theorem Category.ofJson_name (c : Category) : ofJson (.text c.name) = .ok c := by cases c <;> rfl

namespace Entry

/-- A result, or null where there is none, is read as an optional result. -/
theorem readOptional_record {members : List (String × Json)} {r : CheckResult}
    (h : CheckResult.ofJson (.record members) = .ok r) :
    Json.readOptional CheckResult.ofJson (.record members) = .ok (some r) := by
  have hread : Json.readOptional CheckResult.ofJson (.record members) =
      (CheckResult.ofJson (.record members)).map some := rfl
  rw [hread, h]
  rfl

theorem readOptional_result (r : Option CheckResult) :
    Json.readOptional CheckResult.ofJson ((r.map CheckResult.toJson).getD .null) = .ok r := by
  rcases r with _ | r
  · rfl
  · rw [Option.map_some, Option.getD_some, CheckResult.toJson_eq]
    exact readOptional_record (CheckResult.toJson_eq r ▸ r.ofJson_toJson)

/-- The fields of an entry as members of an object; `result` is what stands for the result. -/
def membersWith (e : Entry) (result : Json) : List (String × Json) :=
  [("id", .text e.id), ("name", .text e.name), ("category", .text e.category.name),
    ("description", .text e.description), ("result", result)]

section
variable {e : Entry} {result : Json} (hresult : Json.readOptional CheckResult.ofJson result = .ok e.result)
include hresult

theorem declared_membersWith : Declared fields (e.membersWith result) :=
  .cons ⟨rfl, Field.check_of _ (readText_text e.id)⟩
    (.cons ⟨rfl, Field.check_of _ (readText_text e.name)⟩
      (.cons ⟨rfl, Field.check_of _ e.category.ofJson_name⟩
        (.cons ⟨rfl, Field.check_of _ (readText_text e.description)⟩
          (.cons ⟨rfl, Field.check_of _ hresult⟩ .nil))))

/-- An entry is read from members that give each of its fields the value it has there. -/
theorem ofJson_record {members : List (String × Json)} (hfits : Json.Fits fields members)
    (hgives : e.membersWith result ⊆ members) : ofJson (.record members) = .ok e := by
  have hread : Json.readRecord "struct Check" fields (.record members) = .ok members :=
    Json.readRecord_record _ hfits
  have hlookup := hfits.lookup_declared (declared_membersWith hresult) hgives
  simp only [membersWith, List.forall_mem_cons] at hlookup
  obtain ⟨hid, hname, hcategory, hdescription, hfound, -⟩ := hlookup
  have hresult : Json.optional members "result" CheckResult.ofJson = .ok e.result := by
    rw [Json.optional, hfound]
    exact hresult
  rw [ofJson, hread, ok_bind, required_of_lookup hid (readText_text e.id), ok_bind,
    required_of_lookup hname (readText_text e.name), ok_bind,
    required_of_lookup hcategory e.category.ofJson_name, ok_bind,
    required_of_lookup hdescription (readText_text e.description), ok_bind, hresult]
  rfl

end

theorem ofJson_toJson (e : Entry) : ofJson e.toJson = .ok e :=
  have hresult := readOptional_result e.result
  ofJson_record hresult ((declared_membersWith hresult).fits (by decide)) (List.Subset.refl _)

end Entry

/-! ### Reports -/

namespace Report

/-- The fields of a report as members of an object; `checks` is what stands for the entries. -/
def membersWith (r : Report) (checks : Json) : List (String × Json) :=
  [("timestamp", .nat r.timestamp.toNat), ("hostname", .text r.hostname), ("backend", .text r.backend),
    ("checks", checks), ("total_duration_ms", .nat r.totalDurationMs.toNat)]

section
variable {r : Report} {checks : Json} (hchecks : Json.readList Entry.ofJson checks = .ok r.entries)
include hchecks

theorem declared_membersWith : Declared fields (r.membersWith checks) :=
  .cons ⟨rfl, Field.check_of _ (readWord_nat r.timestamp)⟩
    (.cons ⟨rfl, Field.check_of _ (readText_text r.hostname)⟩
      (.cons ⟨rfl, Field.check_of _ (readText_text r.backend)⟩
        (.cons ⟨rfl, Field.check_of _ hchecks⟩
          (.cons ⟨rfl, Field.check_of _ (readWord_nat r.totalDurationMs)⟩ .nil))))

/-- A report is read from members that give each of its fields the value it has there. -/
theorem ofJson_record {members : List (String × Json)} (hfits : Json.Fits fields members)
    (hgives : r.membersWith checks ⊆ members) : ofJson (.record members) = .ok r := by
  have hread : Json.readRecord "struct ValidationReport" fields (.record members) = .ok members :=
    Json.readRecord_record _ hfits
  have hlookup := hfits.lookup_declared (declared_membersWith hchecks) hgives
  simp only [membersWith, List.forall_mem_cons] at hlookup
  obtain ⟨htimestamp, hhostname, hbackend, hentries, htotal, -⟩ := hlookup
  rw [ofJson, hread, ok_bind, required_of_lookup htimestamp (readWord_nat r.timestamp), ok_bind,
    required_of_lookup hhostname (readText_text r.hostname), ok_bind,
    required_of_lookup hbackend (readText_text r.backend), ok_bind, required_of_lookup hentries hchecks, ok_bind,
    required_of_lookup htotal (readWord_nat r.totalDurationMs)]
  rfl

end

theorem readList_entries (r : Report) :
    Json.readList Entry.ofJson (.array (r.entries.map Entry.toJson)) = .ok r.entries :=
  Json.readList_array Entry.ofJson_toJson r.entries

theorem fits_members (r : Report) : Json.Fits fields r.members :=
  (declared_membersWith r.readList_entries).fits (by decide)

theorem ofJson_toJson (r : Report) : ofJson r.toJson = .ok r :=
  ofJson_record r.readList_entries r.fits_members (List.Subset.refl _)

/-- What is added to a report under other names does not change what is read of it. -/
theorem ofJson_append (r : Report) {added : List (String × Json)}
    (hnew : ∀ p ∈ added, p.1 ∉ fields.map Field.name) (hwhole : ∀ p ∈ added, p.2.isWhole) :
    ofJson (.record (r.members ++ added)) = .ok r :=
  ofJson_record r.readList_entries (r.fits_members.append hnew hwhole) (List.subset_append_left _ _)

end Report

/-! ### Texts -/

section
open Json (Plain)

theorem CheckResult.plain_members (r : CheckResult) :
    ∀ p ∈ ("status", Json.text r.status.name) :: r.members, Plain p.2 := by
  refine List.forall_mem_cons.mpr ⟨.text _, ?_⟩
  cases r with
  | pass message d => simpa [members] using ⟨.text message, .nat d.toNat⟩
  | warn message details d | fail message details d =>
    simpa [members] using ⟨.text message, .text details, .nat d.toNat⟩
  | skip reason => simpa [members] using .text reason

theorem CheckResult.plain_toJson (r : CheckResult) : Plain r.toJson := by
  rw [toJson_eq]
  exact .record r.plain_members

theorem Entry.plain_toJson (e : Entry) : Plain e.toJson := by
  have hresult : Plain ((e.result.map CheckResult.toJson).getD .null) := by
    rcases e.result with _ | r
    · exact .null
    · exact r.plain_toJson
  refine .record ?_
  simpa using ⟨.text e.id, .text e.name, .text e.category.name, .text e.description, hresult⟩

theorem Report.plain_members (r : Report) : ∀ p ∈ r.members, Plain p.2 := by
  have hchecks : Plain (.array (r.entries.map Entry.toJson)) := by
    refine .array fun v hv => ?_
    obtain ⟨e, -, rfl⟩ := List.mem_map.mp hv
    exact e.plain_toJson
  simpa [members] using ⟨.nat _, .text r.hostname, .text r.backend, hchecks, .nat _⟩

theorem Report.plain_toJson (r : Report) : Plain r.toJson := .record r.plain_members

end

namespace Baseline

/-- The text of a value decodes to the report that is read from the value, with blanks behind it or without. -/
theorem decode_render_append {v : Json} (hplain : Json.Plain v) {r : Report} (hread : Report.ofJson v = .ok r)
    (layout : Json.Layout) {behind : String} (hblank : ∀ c ∈ behind.toList, Json.isBlank c = true) :
    decode (Json.render layout v ++ behind) = .ok r := by
  rw [decode, hplain.read_render_append hblank]
  dsimp only
  rw [hread]
  rfl

/-- What is written of a report decodes to the report. -/
theorem decode_encode (r : Report) : decode (encode r) = .ok r := by
  rw [decode, encode, r.plain_toJson.read_render, Report.ofJson_toJson]
  rfl

theorem fromUTF8?_toUTF8 (text : String) : String.fromUTF8? text.toUTF8 = some text :=
  dif_pos text.isValidUTF8

/-- A file with the content of a report is loaded as the report. -/
theorem load_encode (r : Report) : load (.ok (encode r).toUTF8) = .ok r := by
  rw [load, fromUTF8?_toUTF8]
  show (decode (encode r)).mapError LoadProblem.undecodable = .ok r
  rw [decode_encode]
  rfl

/-- An empty file is no report. -/
theorem load_empty : load (.ok .empty) = .error (.undecodable .malformed) := by
  have htext : String.fromUTF8? .empty = some "" := dif_pos ByteArray.isValidUTF8_empty
  rw [load, htext]
  rfl

end Baseline

end KernelAudit
