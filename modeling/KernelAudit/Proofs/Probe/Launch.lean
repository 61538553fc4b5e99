import KernelAudit.Proofs.Machine.Course

/-! Launches. On a machine whose programs can all be started, whatever is found under the name of a validator is
    started, and the machine is still such a one afterwards. A validator that was killed at its deadline has no exit
    code and has had all of its time. -/

namespace KernelAudit

open Machine

namespace Installation

/-- Every program in the tree can be started. -/
def Stocked (fs : FileSystem) : Prop := ∀ id name, fs.body? id = some (.program name) → (programs name).isSome

theorem Stocked.mono {fs fs' : FileSystem} (h : Stocked fs) (hfrom : fs.ProgramsFrom fs') : Stocked fs' :=
  fun id name hbody => h id name (hfrom id name hbody)

theorem programs_isSome {name : String} (h : (table.lookup name).isSome) : (programs name).isSome := by
  have hdepth : depth = 999999999 + 1 := rfl
  rw [programs, hdepth, programsFor, Option.isSome_map]
  exact h

theorem Stocked.place {fs : FileSystem} (h : Stocked fs) (path : String) {body : Nat → Body} (mode : Nat)
    (hbody : ∀ directory name, body directory = .program name → (table.lookup name).isSome) :
    Stocked (place fs path body mode) := by
  rw [Installation.place]
  split
  · split
    · exact h
    · intro id name hname
      rcases FileSystem.ProgramsFrom.program_of_add hname with hnew | hold
      · exact programs_isSome (hbody _ name hnew)
      · exact h id name hold
  · exact h

theorem Stocked.foldl {α : Type} {step : FileSystem → α → FileSystem} {l : List α} {fs : FileSystem}
    (hstep : ∀ a ∈ l, ∀ fs, Stocked fs → Stocked (step fs a)) (h : Stocked fs) : Stocked (l.foldl step fs) :=
  List.foldlRecOn l step h fun fs hfs a ha => hstep a ha fs hfs

/-- The programs that are there at the beginning are those of the table. -/
theorem stocked_files : Stocked files := by
  have hbare : Stocked FileSystem.bare := by
    intro id name hname
    rcases id with _ | id
    · cases hname
    · cases hname
  have hdirectory : ∀ parent name, Body.directory parent [] = .program name → (table.lookup name).isSome := by
    rintro _ _ ⟨⟩
  have hlisted : ∀ row ∈ table, (table.lookup row.1).isSome := fun row hrow =>
    List.lookup_isSome_iff.mpr ⟨row, hrow, beq_self_eq_true _⟩
  unfold files
  refine Stocked.place ?_ workplace 0o755 hdirectory
  refine Stocked.foldl (fun row _ fs h => h.place row.1 0o644 ?_) ?_
  · rintro _ _ ⟨⟩
  refine Stocked.foldl (fun row hrow fs h => h.place _ 0o755 ?_) ?_
  · rintro _ _ ⟨⟩
    exact hlisted row hrow
  refine Stocked.foldl (fun row _ fs h => h.place row.1 0o666 ?_) ?_
  · rintro _ _ ⟨⟩
  refine Stocked.foldl (fun row _ fs h => h.place row.1 0o777 ?_) ?_
  · rintro _ _ ⟨⟩
  exact hbare.foldl fun path _ fs h => h.place path 0o755 hdirectory

end Installation

namespace Probe.Site
variable {site : Site} {name program : String}

theorem isSome_of_programAt (h : Installation.Stocked site.files) (hprogram : site.programAt name = .ok program) :
    (Installation.programs program).isSome := by
  obtain ⟨id, -, hnode⟩ := bind_eq_ok.mp hprogram
  split at hnode
  · next node hfound =>
    split at hnode
    · next found hbody =>
      split at hnode
      · cases hnode
        refine h id program ?_
        rw [FileSystem.body?, hfound, Option.map_some, hbody]
      · cases hnode
    · split at hnode <;> cases hnode
    · cases hnode
  · cases hnode

theorem isSome_of_firstProgram (h : Installation.Stocked site.files) {e : Errno} {paths : List String}
    (hprogram : site.firstProgram e paths = .ok program) : (Installation.programs program).isSome := by
  induction paths generalizing e with
  | nil => cases hprogram
  | cons path rest ih =>
    rw [firstProgram] at hprogram
    split at hprogram
    · next found hat =>
      cases hprogram
      exact isSome_of_programAt h hat
    · exact ih hprogram
    · exact ih hprogram
    · exact ih hprogram
    · cases hprogram

/-- Whatever is found under a name can be started. -/
theorem isSome_of_program? (h : Installation.Stocked site.files) (hprogram : site.program? name = .ok program) :
    (Installation.programs program).isSome := by
  obtain ⟨-, hprogram⟩ := ite_error_eq_ok.mp hprogram
  split at hprogram
  · exact isSome_of_programAt h hprogram
  · obtain ⟨-, hprogram⟩ := ite_error_eq_ok.mp hprogram
    exact isSome_of_firstProgram h hprogram

/-- A validator that has been killed has no exit code and has failed, and its time was up. -/
theorem outcome_of_timedOut {c : Computer} {timeoutMs : Nat}
    (h : (outcome (supervise c (timeoutMs * 1000))).timedOut = true) :
    let o := outcome (supervise c (timeoutMs * 1000))
    o.exitCode = none ∧ o.verdict = .fail ∧ ∃ elapsedMs, timeoutMs ≤ elapsedMs ∧ o.durationMs = .ofNat elapsedMs := by
  intro o
  have hending : (supervise c (timeoutMs * 1000)).ending = none := Option.isNone_iff_eq_none.mp h
  have hexit : o.exitCode = none := by
    simp only [o, outcome, hending]
  refine ⟨hexit, ?_, _, ?_, rfl⟩
  · rw [Outcome.verdict, hexit]
    rfl
  · exact (Nat.le_div_iff_mul_le (by decide)).mpr (deadline_le_elapsed c (timeoutMs * 1000) hending)

/-- What a launch leaves behind can be launched on again, and what it answers of a validator that it has killed. -/
theorem outcome_of_launch {r : Request} {o : Outcome} {files : FileSystem} (h : site.launch r = .ok (o, files)) :
    (Installation.Stocked site.files → Installation.Stocked files) ∧
      (o.timedOut = true → o.exitCode = none ∧ o.verdict = .fail ∧
        ∃ elapsedMs, r.timeoutMs.toNat ≤ elapsedMs ∧ o.durationMs = .ofNat elapsedMs) := by
  obtain ⟨-, h⟩ := ite_error_eq_ok.mp h
  split at h
  · cases h
  split at h
  · cases h
  · cases h
    exact ⟨fun hstocked => hstocked.mono (programsFrom_supervise _ _), outcome_of_timedOut⟩

/-- A validator that is found is started. -/
theorem launch_of_program? {r : Request} (hstocked : Installation.Stocked site.files)
    (hzero : (Octets.ofRaw r.executable :: r.args.map Octets.ofText).any (·.toList.contains '\x00') = false)
    (hprogram : site.program? (Octets.ofRaw r.executable) = .ok program) : ∃ o files, site.launch r = .ok (o, files) := by
  obtain ⟨start, hstart⟩ := Option.isSome_iff_exists.mp (isSome_of_program? hstocked hprogram)
  rw [launch]
  dsimp only
  rw [hzero, if_neg nofun, hprogram]
  dsimp only
  rw [hstart]
  exact ⟨_, _, rfl⟩

end Probe.Site

end KernelAudit
