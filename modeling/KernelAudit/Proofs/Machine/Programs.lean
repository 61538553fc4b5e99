import KernelAudit.Proofs.Machine.FileSystem

/-! The programs among the nodes of a tree. Whatever is made, written, renamed or taken away, no node becomes a
    program: the programs of a machine are those that it has had from the start. -/

namespace KernelAudit.Machine.FileSystem

/-- Programs are in the second tree only where they have been in the first one. -/
def ProgramsFrom (fs fs' : FileSystem) : Prop :=
  ∀ id name, fs'.body? id = some (.program name) → fs.body? id = some (.program name)

namespace ProgramsFrom

theorem refl (fs : FileSystem) : ProgramsFrom fs fs := fun _ _ => id

theorem trans {a b c : FileSystem} (h : ProgramsFrom a b) (h' : ProgramsFrom b c) : ProgramsFrom a c :=
  fun id name hbody => h id name (h' id name hbody)

variable {fs fs' : FileSystem} {id now here : Nat} {p : Place}

theorem setNode {f : Node → Node} (h : ∀ node name, (f node).body = .program name → node.body = .program name) :
    ProgramsFrom fs (fs.setNode id f) := by
  intro k name hbody
  rw [body?_setNode] at hbody
  split at hbody
  · obtain ⟨node, hnode, hprogram⟩ := Option.map_eq_some_iff.mp hbody
    exact Option.map_eq_some_iff.mpr ⟨node, hnode, h node name hprogram⟩
  · exact hbody

theorem setEntries (f : List (String × Nat) → List (String × Nat)) : ProgramsFrom fs (fs.setEntries id f) := by
  refine setNode fun node name h => ?_
  split at h
  · cases h
  · exact h

theorem enter : ProgramsFrom fs (fs.enter p id) := setEntries _

theorem leave : ProgramsFrom fs (fs.leave p) := setEntries _

theorem writeAt (offset : Nat) (text : String) : ProgramsFrom fs (fs.writeAt id now offset text) := by
  refine setNode fun node name h => ?_
  split at h
  · cases h
  · exact h

theorem setContent (content : ByteArray) : ProgramsFrom fs (fs.setContent id now content) := by
  refine setNode fun node name h => ?_
  split at h
  · cases h
  · exact h

/-- A program that is there once a node has been added is that node, or was there before. -/
theorem program_of_add {node : Node} {k : Nat} {name : String} (h : (fs.add p node).2.body? k = some (.program name)) :
    node.body = .program name ∨ fs.body? k = some (.program name) := by
  have hpush : (⟨fs.nodes.push node⟩ : FileSystem).node? k = if k = fs.nodes.size then some node else fs.node? k :=
    Array.getElem?_push
  have h : (⟨fs.nodes.push node⟩ : FileSystem).body? k = some (.program name) := enter k name h
  rw [body?, hpush] at h
  split at h
  · exact .inl (Option.some.inj h)
  · exact .inr h

theorem add {node : Node} (h : ∀ name, node.body ≠ .program name) : ProgramsFrom fs (fs.add p node).2 :=
  fun _ name hbody => (program_of_add hbody).resolve_left (h name)

theorem openPath {path : String} {how : Opening} {mode : Nat}
    (h : fs.openPath here now path how mode = .ok (id, fs')) : ProgramsFrom fs fs' := by
  rw [FileSystem.openPath] at h
  split at h
  · obtain ⟨-, h⟩ := ite_error_eq_ok.mp h
    obtain ⟨-, h⟩ := ite_error_eq_ok.mp h
    rw [openNode] at h
    split at h
    · cases h
    · split at h
      · cases h
      · cases h
        exact .refl fs
    · cases h
    · cases h
      split
      · exact setContent .empty
      · exact .refl fs
    · cases h
      exact .refl fs
  · split at h
    · obtain ⟨place, -, h⟩ := bind_eq_ok.mp h
      cases place with
      | none => cases h
      | some place =>
        obtain ⟨-, h⟩ := ite_error_eq_ok.mp h
        obtain ⟨-, h⟩ := ite_error_eq_ok.mp h
        cases h
        exact add (by rintro _ ⟨⟩)
    · cases h

theorem makeDirectory {path : String} {mode : Nat} (h : fs.makeDirectory here now path mode = .ok fs') :
    ProgramsFrom fs fs' := by
  obtain ⟨place, -, h⟩ := bind_eq_ok.mp h
  cases place with
  | none => cases h
  | some place =>
    obtain ⟨-, h⟩ := ite_error_eq_ok.mp h
    cases h
    exact add (by rintro _ ⟨⟩)

theorem unlink {path : String} (h : fs.unlink here path = .ok fs') : ProgramsFrom fs fs' := by
  obtain ⟨place, -, h⟩ := bind_eq_ok.mp h
  cases place with
  | none => cases h
  | some place =>
    dsimp only at h
    split at h
    · cases h
    · obtain ⟨-, h⟩ := ite_error_eq_ok.mp h
      obtain ⟨-, h⟩ := ite_error_eq_ok.mp h
      cases h
      exact leave

theorem removeDirectory {path : String} (h : fs.removeDirectory here path = .ok fs') : ProgramsFrom fs fs' := by
  obtain ⟨place, -, h⟩ := bind_eq_ok.mp h
  cases place with
  | none => cases h
  | some place =>
    dsimp only at h
    split at h
    · cases h
    · obtain ⟨-, h⟩ := ite_error_eq_ok.mp h
      obtain ⟨-, h⟩ := ite_error_eq_ok.mp h
      cases h
      exact leave

theorem makeLink {target path : String} (h : fs.makeLink here now target path = .ok fs') : ProgramsFrom fs fs' := by
  obtain ⟨place, -, h⟩ := bind_eq_ok.mp h
  cases place with
  | none => cases h
  | some place =>
    obtain ⟨-, h⟩ := ite_error_eq_ok.mp h
    obtain ⟨-, h⟩ := ite_error_eq_ok.mp h
    cases h
    exact add (by rintro _ ⟨⟩)

theorem linkTo {source target : String} (h : fs.linkTo here source target = .ok fs') : ProgramsFrom fs fs' := by
  obtain ⟨id, -, h⟩ := bind_eq_ok.mp h
  obtain ⟨-, h⟩ := ite_error_eq_ok.mp h
  obtain ⟨place, -, h⟩ := bind_eq_ok.mp h
  cases place with
  | none => cases h
  | some place =>
    obtain ⟨-, h⟩ := ite_error_eq_ok.mp h
    obtain ⟨-, h⟩ := ite_error_eq_ok.mp h
    cases h
    exact enter

theorem moved {directory : Nat} : ProgramsFrom fs (fs.setNode id fun node =>
    match node.body with
    | .directory _ entries => { node with body := .directory directory entries }
    | _ => node) := by
  refine setNode fun node name h => ?_
  split at h
  · cases h
  · exact h

theorem rename {source target : String} (h : fs.rename here source target = .ok fs') : ProgramsFrom fs fs' := by
  have hplaced : ∀ {old new : Place} {id : Nat}, ProgramsFrom fs (((fs.leave old).leave new).enter new id) :=
    (leave.trans leave).trans enter
  obtain ⟨old, -, h⟩ := bind_eq_ok.mp h
  obtain ⟨new, -, h⟩ := bind_eq_ok.mp h
  rcases old with _ | old
  · cases h
  rcases new with _ | new
  · cases h
  dsimp only at h
  split at h
  · cases h
  obtain ⟨-, h⟩ := ite_error_eq_ok.mp h
  split at h
  · obtain ⟨-, h⟩ := ite_error_eq_ok.mp h
    cases h
    exact hplaced.trans moved
  split at h
  · cases h
    exact .refl fs
  split at h
  · cases h
  · cases h
  · split at h
    · cases h
      exact hplaced.trans moved
    · cases h
  · cases h
    exact hplaced.trans moved

/-- A change of the permissions or of the time of a node. -/
theorem ofFound {path : String} {f : Node → Node} (hbody : ∀ node, (f node).body = node.body)
    (h : (fs.find here path true).map (fun id => fs.setNode id f) = .ok fs') : ProgramsFrom fs fs' := by
  obtain ⟨id, -, rfl⟩ := map_eq_ok.mp h
  exact setNode fun node name hname => hbody node ▸ hname

end ProgramsFrom

end KernelAudit.Machine.FileSystem
