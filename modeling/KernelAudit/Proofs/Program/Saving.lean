import KernelAudit.Program.World
import KernelAudit.Proofs.Machine.FileSystem
import KernelAudit.Proofs.Report.Decoding
import Mathlib.Data.Prod.Basic

/-! Reports that are saved and loaded again. On any machine that keeps what is written at a path (`System.KeepsAt`)
    a report comes back from there as it was. A machine need not keep it, as a path may lead to a device that
    takes what is written and gives nothing back; on the machine that is a value it is kept in files. -/

namespace KernelAudit
open Machine FileSystem

/-! ### Any machine -/

namespace System
variable {σ : Type} {sys : System (StateM σ)} {path : Text.Raw} {r : Report} {s s' : σ}

/-- Whatever is written at the path, if it can be, is what is read from there next. -/
def KeepsAt (sys : System (StateM σ)) (path : Text.Raw) (s : σ) : Prop :=
  ∀ content s', (sys.writeFile path content).run s = (.ok (), s') →
    ((sys.readFile path).run s').1 = .ok content.toUTF8

theorem write_of_saveBaseline (h : (sys.saveBaseline r path).run s = (.ok (), s')) :
    (sys.writeFile path (Baseline.encode r)).run s = (.ok (), s') := by
  rcases hwrite : (sys.writeFile path (Baseline.encode r)).run s with ⟨outcome, after⟩
  have hrun : (sys.saveBaseline r path).run s = (outcome.mapError (Baseline.saveError path.display), after) := by
    rw [saveBaseline, StateT.run_bind, hwrite]
    rfl
  rw [hrun, Prod.mk.injEq, mapError_eq_ok] at h
  rw [h.1, h.2]

theorem fst_run_loadBaseline :
    ((sys.loadBaseline path).run s).1 = Baseline.load ((sys.readFile path).run s).1 := rfl

/-- A report that could be saved at a path where the machine keeps what is written is loaded from there as it was. -/
theorem loads_saved_report (hkeeps : sys.KeepsAt path s) (hsave : (sys.saveBaseline r path).run s = (.ok (), s')) :
    ((sys.loadBaseline path).run s').1 = .ok r := by
  have hread : ((sys.readFile path).run s').1 = .ok (Baseline.encode r).toUTF8 :=
    hkeeps _ s' (write_of_saveBaseline hsave)
  rw [fst_run_loadBaseline, hread, Baseline.load_encode]

end System

/-! ### Files -/

namespace World

/-- Whether the path leads to a file, and not to a directory, a device or a program. -/
def leadsToFile (w : World) (path : Text.Raw) : Bool :=
  match path? path with
  | .error _ => false
  | .ok name =>
    match w.site.files.find w.site.directory name true with
    | .error _ => false
    | .ok id => (w.site.files.body? id).any fun
      | .file _ => true
      | _ => false

section
variable {w w' : World} {path : Text.Raw} {content : String}

theorem leadsToFile_iff :
    w.leadsToFile path = true ↔
      ∃ name id kept, path? path = .ok name ∧ w.site.files.find w.site.directory name true = .ok id ∧
        w.site.files.body? id = some (.file kept) := by
  rw [leadsToFile]
  rcases path? path with e | name
  · simp
  rcases hfind : w.site.files.find w.site.directory name true with e | id
  · simp [hfind]
  rcases hbody : w.site.files.body? id with _ | body
  · simp [hfind, hbody]
  · cases body <;> simp [hfind, hbody]

/-- A file that has been written holds what was written, and nothing else has changed since it was opened. -/
theorem of_write (h : w.write path content = .ok w') :
    ∃ name id files, path? path = .ok name ∧
      w.site.files.openPath w.site.directory 0 name .writing fileMode = .ok (id, files) ∧
      w'.site.directory = w.site.directory ∧ Alike files w'.site.files ∧
      (∀ kept, w'.site.files.body? id = some (.file kept) → kept = content.toUTF8) ∧
      ∀ k, k ≠ id → w'.site.files.body? k = files.body? k := by
  obtain ⟨name, hpath, h⟩ := bind_eq_ok.mp h
  obtain ⟨⟨id, files⟩, hopen, h⟩ := bind_eq_ok.mp h
  have hdevice : ∀ device, files.body? id = some (.device device) →
      ∀ kept, files.body? id = some (.file kept) → kept = content.toUTF8 := by
    intro device hbody kept hkept
    rw [hbody] at hkept
    cases hkept
  refine ⟨name, id, files, hpath, mapError_eq_ok.mp hopen, ?_⟩
  dsimp only at h
  split at h
  · next hbody =>
    cases h
    exact ⟨rfl, .refl files, hdevice _ hbody, fun _ _ => rfl⟩
  · next hbody =>
    cases h
    exact ⟨rfl, .refl files, hdevice _ hbody, fun _ _ => rfl⟩
  · next hbody =>
    split at h
    · cases h
      exact ⟨rfl, .refl files, hdevice _ hbody, fun _ _ => rfl⟩
    · cases h
  · cases h
    exact ⟨rfl, alike_setContent files id 0 content.toUTF8, fun kept => eq_of_setContent,
      fun _ => body?_setContent_of_ne content.toUTF8⟩

theorem openPath_reading {fs : FileSystem} {here now mode id : Nat} {name : String}
    (hfind : fs.find here name true = .ok id) :
    fs.openPath here now name .reading mode = fs.openNode now .reading id := by
  rw [openPath, hfind]
  rfl

theorem read_file {name : String} {id : Nat} {kept : ByteArray} (hpath : path? path = .ok name)
    (hfind : w.site.files.find w.site.directory name true = .ok id)
    (hbody : w.site.files.body? id = some (.file kept)) : w.read path = .ok kept := by
  have hopen : w.site.files.openNode 0 .reading id = .ok (id, w.site.files) := by
    rw [openNode, hbody]
    rfl
  simp [read, hpath, openPath_reading hfind, hopen, hbody, bind, Except.bind, mapError_ok]

theorem read_write (h : w.write path content = .ok w') (hfile : w'.leadsToFile path = true) :
    w'.read path = .ok content.toUTF8 := by
  obtain ⟨name, id, files, hpath, hopen, hdirectory, halike, hkept, -⟩ := of_write h
  obtain ⟨name', id', kept, hpath', hfind, hbody⟩ := leadsToFile_iff.mp hfile
  rw [hpath, Except.ok.injEq] at hpath'
  subst hpath'
  have hid : id' = id := find_of_openPath hopen halike (hdirectory ▸ hfind)
  rw [hid] at hbody hfind
  rw [read_file hpath hfind hbody, hkept kept hbody]

/-- What is read from anything but a file is empty. -/
theorem leadsToFile_of_read {kept : ByteArray} (h : w.read path = .ok kept) (hkept : kept ≠ .empty) :
    w.leadsToFile path = true := by
  obtain ⟨name, hpath, h⟩ := bind_eq_ok.mp h
  obtain ⟨⟨id, files⟩, hopen, h⟩ := bind_eq_ok.mp h
  rcases hfind : w.site.files.find w.site.directory name true with e | found
  · simp [openPath, hfind, Opening.reading, mapError_error] at hopen
  rw [openPath_reading hfind] at hopen
  obtain ⟨rfl, halike⟩ := openNode_eq_ok (mapError_eq_ok.mp hopen)
  dsimp only at h
  split at h
  · next content hbody =>
    rcases halike id with heq | ⟨⟨old, hold⟩, -⟩
    · exact leadsToFile_iff.mpr ⟨name, id, content, hpath, hfind, heq.trans hbody⟩
    · exact leadsToFile_iff.mpr ⟨name, id, old, hpath, hfind, hold⟩
  · cases h
  · cases h
    exact absurd rfl hkept

/-- The node that a path leads to, if it leads anywhere. -/
def leadsTo? (w : World) (path : Text.Raw) : Option Nat :=
  match path? path with
  | .error _ => none
  | .ok name => (w.site.files.find w.site.directory name true).toOption

theorem leadsTo?_eq_some_iff {name : String} {id : Nat} (hpath : path? path = .ok name) :
    w.leadsTo? path = some id ↔ w.site.files.find w.site.directory name true = .ok id := by
  rw [leadsTo?, hpath]
  dsimp only
  rcases w.site.files.find w.site.directory name true with e | found
  · exact iff_of_false nofun nofun
  · rw [Except.ok.injEq]
    exact Option.some_inj

/-- After a write a file holds what was written, if the path that was written leads to it, and otherwise what
    it held before. -/
theorem read_after_write (h : w.write path content = .ok w') {other : Text.Raw} {kept : ByteArray}
    (hread : w.read other = .ok kept) (hkept : kept ≠ .empty) :
    w'.read other = .ok (if w.leadsTo? other = w.leadsTo? path then content.toUTF8 else kept) := by
  obtain ⟨name, id, files, hpath, hopen, hdirectory, halike, hwritten, hothers⟩ := of_write h
  obtain ⟨name', k, kept', hpath', hfind, hbody⟩ := leadsToFile_iff.mp (leadsToFile_of_read hread hkept)
  obtain rfl : kept' = kept := Except.ok.inj ((read_file hpath' hfind hbody).symm.trans hread)
  obtain ⟨hfind₁, hsame, held, hbody₁, hheld⟩ := file_of_openPath hopen hfind hbody
  have hfind' : w'.site.files.find w'.site.directory name' true = .ok k := by
    rw [hdirectory, ← halike.find_eq, hfind₁]
  have hleads : w.leadsTo? other = w.leadsTo? path ↔ k = id := by
    rw [(leadsTo?_eq_some_iff hpath').mpr hfind, eq_comm, leadsTo?_eq_some_iff hpath, hsame]
  by_cases hk : k = id
  · obtain ⟨content', hbody'⟩ := halike.file hbody₁
    rw [if_pos (hleads.mpr hk), read_file hpath' hfind' hbody', hwritten content' (hk ▸ hbody')]
  · have hbody' : w'.site.files.body? k = some (.file kept') := by rw [hothers k hk, hbody₁, hheld hk]
    rw [if_neg (mt hleads.mp hk), read_file hpath' hfind' hbody']

theorem leadsToFile_alike (hdirectory : w.site.directory = w'.site.directory) (halike : Alike w.site.files w'.site.files)
    (h : w.leadsToFile path = true) : w'.leadsToFile path = true := by
  obtain ⟨name, id, kept, hpath, hfind, hbody⟩ := leadsToFile_iff.mp h
  obtain ⟨kept', hbody'⟩ := halike.file hbody
  exact leadsToFile_iff.mpr ⟨name, id, kept', hpath, hdirectory ▸ halike.find_eq ▸ hfind, hbody'⟩

theorem exists_write_empty (h : w.write path content = .ok w') : ∃ w₀, w.write path "" = .ok w₀ := by
  obtain ⟨name, hpath, h⟩ := bind_eq_ok.mp h
  obtain ⟨⟨id, files⟩, hopen, -⟩ := bind_eq_ok.mp h
  rw [write, hpath, ok_bind, hopen, ok_bind]
  dsimp only
  split
  · exact ⟨_, rfl⟩
  · exact ⟨_, rfl⟩
  · exact ⟨_, if_pos rfl⟩
  · exact ⟨_, rfl⟩

theorem leadsToFile_of_write {content' : String} {w₀ : World} (h₀ : w.write path content' = .ok w₀)
    (hfile : w₀.leadsToFile path = true) (h : w.write path content = .ok w') : w'.leadsToFile path = true := by
  obtain ⟨name, id, files, hpath, hopen, hdirectory, halike, -⟩ := of_write h
  obtain ⟨name₀, id₀, files₀, hpath₀, hopen₀, hdirectory₀, halike₀, -⟩ := of_write h₀
  cases hpath₀.symm.trans hpath
  cases hopen₀.symm.trans hopen
  exact leadsToFile_alike (hdirectory₀.trans hdirectory.symm) (halike₀.symm.trans halike) hfile

end

/-! ### Reports -/

section
variable {w w' : World} {path : Text.Raw} {r : Report}

theorem run_writeFile (w : World) (path : Text.Raw) (content : String) :
    (system.writeFile path content).run w =
      match w.write path content with
      | .error reason => (.error reason, w)
      | .ok w' => (.ok (), w') := by
  rcases hwrite : w.write path content with reason | w'
  · simp [system, hwrite]
    rfl
  · simp [system, hwrite]
    rfl

theorem write_of_writeFile {content : String} (h : (system.writeFile path content).run w = (.ok (), w')) :
    w.write path content = .ok w' := by
  rw [run_writeFile] at h
  split at h
  · cases h
  · next hwrite =>
    rw [hwrite, (Prod.mk.inj h).2]

theorem run_saveBaseline (h : (system.saveBaseline r path).run w = (.ok (), w')) :
    w.write path (Baseline.encode r) = .ok w' :=
  write_of_writeFile (System.write_of_saveBaseline h)

theorem run_loadBaseline : (system.loadBaseline path).run w = (Baseline.load (w.read path), w) := rfl

theorem read_of_loadBaseline (h : (system.loadBaseline path).run w = (.ok r, w)) :
    ∃ kept, w.read path = .ok kept ∧ kept ≠ .empty ∧ Baseline.load (.ok kept) = .ok r := by
  have hload : Baseline.load (w.read path) = .ok r := congrArg Prod.fst h
  rcases hread : w.read path with e | kept
  · rw [hread] at hload
    cases hload
  · rw [hread] at hload
    refine ⟨kept, rfl, ?_, hload⟩
    rintro rfl
    rw [Baseline.load_empty] at hload
    cases hload

/-- Whatever is loaded comes from a file. -/
theorem leadsToFile_of_loadBaseline (h : (system.loadBaseline path).run w = (.ok r, w)) :
    w.leadsToFile path = true := by
  obtain ⟨_, hread, hkept, -⟩ := read_of_loadBaseline h
  exact leadsToFile_of_read hread hkept

theorem load_saved (h : (system.saveBaseline r path).run w = (.ok (), w'))
    (hfile : w'.leadsToFile path = true) : (system.loadBaseline path).run w' = (.ok r, w') := by
  rw [run_loadBaseline, read_write (run_saveBaseline h) hfile, Baseline.load_encode]

end

/-- What is written to a file is kept, also to one that is made for it. -/
theorem keepsAt {w : World} {path : Text.Raw} (hfile : ∀ w₀, w.write path "" = .ok w₀ → w₀.leadsToFile path = true) :
    system.KeepsAt path w := by
  intro content w' hwrite
  have h : w.write path content = .ok w' := write_of_writeFile hwrite
  obtain ⟨w₀, h₀⟩ := exists_write_empty h
  exact read_write h (leadsToFile_of_write h₀ (hfile w₀ h₀) h)

/-- A machine with nothing but a device, which keeps nothing. -/
def withNull : World :=
  let files : FileSystem :=
    ⟨#[.directory root [("dev", 1)], .directory root [("null", 2)], ⟨.device .null, 0o666, 0⟩]⟩
  ⟨⟨files, root, []⟩, "", ""⟩

/-- A report is saved where there is no file yet, and loaded from there. -/
theorem loads_saved_report_sample :
    let report : Report := ⟨0, "h", "reference", [⟨"A", "\x07", .sort, "\"", some (.skip "\n")⟩], 3⟩
    let path := Text.Raw.ofString "b"
    let saved := (system.saveBaseline report path).run withNull
    system.KeepsAt path withNull ∧ saved.1 = .ok () ∧ ((system.loadBaseline path).run saved.2).1 = .ok report := by
  intro report path saved
  have hfile : (withNull.write path "").toOption.all (·.leadsToFile path) = true := by decide +kernel
  have hkeeps : system.KeepsAt path withNull := by
    refine keepsAt fun w₀ h₀ => ?_
    rw [h₀] at hfile
    exact hfile
  have hsaved : saved.1 = .ok () := eq_ok_of_isOk (by decide +kernel)
  have hrun : saved = (.ok (), saved.2) := Prod.fst_eq_iff.mp hsaved
  exact ⟨hkeeps, hsaved, System.loads_saved_report hkeeps hrun⟩

end World

end KernelAudit
