import KernelAudit.Machine.FileSystem
import KernelAudit.Proofs.Except

/-! What a change of the tree does to paths. A path is followed along directories and links only, so it
    leads to the same node whatever is written into files; and when a file is added to a directory, a
    path that led nowhere before leads to the new file, or nowhere still. -/

namespace KernelAudit.Machine.FileSystem

section
variable {fs fs' : FileSystem} {follow : Bool} {fuel links here id now parent : Nat}
  {entries : List (String × Nat)} {name path : String} {names rest : List String}

/-! ### Steps of a walk -/

/-- A walk from the entry of a directory: along the link that it is, or from the node itself. -/
def proceed (fs : FileSystem) (follow : Bool) (fuel links here : Nat) (rest : List String) (next : Nat) :
    Except Errno Nat :=
  match fs.body? next with
  | some (.link target) =>
    if rest.isEmpty && !follow then .ok next
    else match links with
      | 0 => .error .tooManyLinks
      | links + 1 => fs.walk follow fuel links (if isAbsolute target then root else here) (steps target ++ rest)
  | _ => fs.walk follow fuel links next rest

theorem walk_directory (h : fs.body? here = some (.directory parent entries)) :
    fs.walk follow (fuel + 1) links here (name :: rest) =
      if name = "." then fs.walk follow fuel links here rest
      else if name = ".." then fs.walk follow fuel links parent rest
      else if nameLimit < name.length then .error .tooLongName
      else match entries.lookup name with
        | none => .error .noEntry
        | some next => fs.proceed follow fuel links here rest next := by
  rw [walk, h]
  rfl

theorem walk_notDirectory (h : fs.isDirectory here = false) :
    fs.walk follow (fuel + 1) links here (name :: rest) = .error .notDirectory := by
  rw [walk]
  split
  · next hbody =>
    rw [isDirectory, hbody] at h
    cases h
  · rfl

/-- A path goes on from directories only. -/
theorem eq_of_walk_notDirectory {k : Nat} (hdir : fs.isDirectory here = false)
    (h : fs.walk follow fuel links here names = .ok k) : k = here := by
  rcases names with _ | ⟨name, rest⟩
  · cases fuel <;> exact (Except.ok.inj h).symm
  cases fuel with
  | zero => cases h
  | succ fuel =>
    rw [walk_notDirectory hdir] at h
    cases h

theorem isDirectory_iff :
    fs.isDirectory id = true ↔ ∃ parent entries, fs.body? id = some (.directory parent entries) := by
  rw [isDirectory]
  rcases fs.body? id with _ | body
  · simp
  · cases body <;> simp [Body.isDirectory]

/-! ### Trees that differ in the contents of files -/

/-- Two trees that a path cannot tell from each other. -/
def Alike (fs fs' : FileSystem) : Prop :=
  ∀ id, fs.body? id = fs'.body? id ∨
    (∃ content, fs.body? id = some (.file content)) ∧ ∃ content, fs'.body? id = some (.file content)

theorem Alike.refl (fs : FileSystem) : Alike fs fs := fun _ => Or.inl rfl

theorem Alike.symm (h : Alike fs fs') : Alike fs' fs := fun id => (h id).imp Eq.symm And.symm

theorem Alike.trans {fs'' : FileSystem} (h : Alike fs fs') (h' : Alike fs' fs'') : Alike fs fs'' := by
  intro id
  rcases h id with heq | ⟨hfile, hfile'⟩
  · rw [heq]
    exact h' id
  rcases h' id with heq | ⟨-, hfile''⟩
  · exact .inr ⟨hfile, heq ▸ hfile'⟩
  · exact .inr ⟨hfile, hfile''⟩

theorem Alike.isDirectory_eq (h : Alike fs fs') (id : Nat) : fs.isDirectory id = fs'.isDirectory id := by
  rcases h id with heq | ⟨⟨_, hfile⟩, _, hfile'⟩
  · rw [isDirectory, isDirectory, heq]
  · rw [isDirectory, isDirectory, hfile, hfile']
    rfl

theorem Alike.file {content : ByteArray} (h : Alike fs fs') (hfile : fs.body? id = some (.file content)) :
    ∃ content', fs'.body? id = some (.file content') := by
  rcases h id with heq | ⟨-, hfile'⟩
  · exact ⟨content, heq ▸ hfile⟩
  · exact hfile'

/-- A path leads to the same node in both trees. -/
theorem Alike.walk_eq (h : Alike fs fs') :
    fs.walk follow fuel links here names = fs'.walk follow fuel links here names := by
  induction fuel generalizing links here names with
  | zero => cases names <;> rfl
  | succ fuel ih =>
    rcases names with _ | ⟨name, rest⟩
    · rfl
    have hproceed : ∀ next,
        fs.proceed follow fuel links here rest next = fs'.proceed follow fuel links here rest next := by
      intro next
      simp only [proceed, ih]
      rcases h next with heq | ⟨⟨_, hfile⟩, _, hfile'⟩
      · rw [heq]
      · rw [hfile, hfile']
    rcases hdir : fs.isDirectory here
    · rw [walk_notDirectory hdir, walk_notDirectory (h.isDirectory_eq here ▸ hdir)]
    · obtain ⟨parent, entries, hbody⟩ := isDirectory_iff.mp hdir
      have hbody' : fs'.body? here = some (.directory parent entries) := by
        rcases h here with heq | ⟨⟨_, hfile⟩, -⟩
        · rw [← heq, hbody]
        · rw [hbody] at hfile
          cases hfile
      rw [walk_directory hbody, walk_directory hbody']
      simp only [ih, hproceed]

theorem Alike.find_eq (h : Alike fs fs') : fs.find here path follow = fs'.find here path follow := by
  rw [find, find, h.walk_eq]
  simp only [h.isDirectory_eq]

/-! ### Changes of a node -/

theorem body?_setNode (f : Node → Node) (k : Nat) :
    (fs.setNode id f).body? k = if id = k then (fs.node? k).map fun node => (f node).body else fs.body? k := by
  rw [body?, node?, setNode, Array.getElem?_modify]
  split
  · rw [Option.map_map]
    rfl
  · rfl

/-- Writing changes the content of a file, and nothing else. -/
theorem body?_setContent (content : ByteArray) (k : Nat) :
    (fs.setContent id now content).body? k =
      match fs.body? k with
      | some (.file old) => some (.file (if id = k then content else old))
      | body => body := by
  rw [setContent, body?_setNode, body?]
  rcases fs.node? k with _ | node
  · simp
  · by_cases hk : id = k
    · rcases node with ⟨_ | _ | _ | _ | _, _, _⟩ <;> simp [hk]
    · rcases node with ⟨_ | _ | _ | _ | _, _, _⟩ <;> simp [hk]

theorem body?_setContent_of_ne {k : Nat} (content : ByteArray) (hk : k ≠ id) :
    (fs.setContent id now content).body? k = fs.body? k := by
  rw [body?_setContent]
  split
  · next hbody => rw [hbody, if_neg (Ne.symm hk)]
  · rfl

theorem eq_of_setContent {content kept : ByteArray}
    (h : (fs.setContent id now content).body? id = some (.file kept)) : kept = content := by
  rw [body?_setContent] at h
  split at h
  · rw [if_pos rfl] at h
    cases h
    rfl
  · next hother => exact absurd h (hother kept)

theorem alike_setContent (fs : FileSystem) (id now : Nat) (content : ByteArray) :
    Alike fs (fs.setContent id now content) := by
  intro k
  rw [body?_setContent]
  rcases fs.body? k with _ | body
  · exact Or.inl rfl
  · cases body with
    | file old => exact Or.inr ⟨⟨old, rfl⟩, _, rfl⟩
    | _ => exact Or.inl rfl

end

/-! ### New files -/

section
variable {fs : FileSystem} {follow : Bool} {fuel links here now parent k : Nat} {entries : List (String × Nat)}
  {names : List String} {p : Place} {node : Node} {content : ByteArray}

theorem body?_size (fs : FileSystem) : fs.body? fs.nodes.size = none := by
  rw [body?, node?, Array.getElem?_eq_none (Nat.le_refl _)]
  rfl

theorem ne_size_of_body? {body : Body} (h : fs.body? k = some body) : k ≠ fs.nodes.size := by
  rintro rfl
  rw [body?_size] at h
  cases h

theorem body?_add (hdir : fs.body? p.directory = some (.directory parent entries)) (node : Node) (k : Nat) :
    (fs.add p node).2.body? k =
      if k = fs.nodes.size then some node.body
      else if k = p.directory then some (.directory parent (entries ++ [(p.name, fs.nodes.size)]))
      else fs.body? k := by
  have hlt : p.directory < fs.nodes.size := by
    refine Nat.lt_of_not_le fun hle => ?_
    rw [body?, node?, Array.getElem?_eq_none hle] at hdir
    cases hdir
  have hpush : (⟨fs.nodes.push node⟩ : FileSystem).node? k = if k = fs.nodes.size then some node else fs.node? k :=
    Array.getElem?_push
  rw [add, enter, setEntries, body?_setNode, body?, hpush]
  by_cases hsize : k = fs.nodes.size
  · rw [if_neg (by omega), if_pos hsize, if_pos hsize]
    rfl
  rw [if_neg hsize, if_neg hsize]
  by_cases hplace : k = p.directory
  · obtain ⟨old, hold, hbody⟩ := Option.map_eq_some_iff.mp hdir
    rw [if_pos hplace.symm, if_pos hplace, hplace, hold, Option.map_some, hbody]
  · rw [if_neg (Ne.symm hplace), if_neg hplace]
    rfl

variable (hdir : fs.body? p.directory = some (.directory parent entries)) (hfile : node.body = .file content)
include hdir hfile

/-- A directory has its old entries; only a new file may have joined them. -/
theorem directory_of_add {parent' : Nat} {entries' : List (String × Nat)}
    (h : (fs.add p node).2.body? here = some (.directory parent' entries')) :
    ∃ old, fs.body? here = some (.directory parent' old) ∧
      ∀ name next, entries'.lookup name = some next → old.lookup name = some next ∨ next = fs.nodes.size := by
  rw [body?_add hdir, hfile] at h
  split at h
  · cases h
  split at h
  · next hhere =>
    cases h
    refine ⟨entries, hhere ▸ hdir, fun name next hlookup => ?_⟩
    rw [List.lookup_append] at hlookup
    rcases Option.or_eq_some_iff.mp hlookup with hold | ⟨-, hadded⟩
    · exact Or.inl hold
    · rw [List.lookup_cons] at hadded
      split at hadded
      · exact Or.inr (Option.some.inj hadded).symm
      · cases hadded
  · exact ⟨entries', h, fun _ _ hlookup => Or.inl hlookup⟩

/-- From the new file no path goes on. -/
theorem walk_new (h : (fs.add p node).2.walk follow fuel links fs.nodes.size names = .ok k) :
    k = fs.nodes.size := by
  have hnew : (fs.add p node).2.isDirectory fs.nodes.size = false := by
    rw [isDirectory, body?_add hdir, if_pos rfl, hfile]
    rfl
  exact eq_of_walk_notDirectory hnew h

theorem proceed_add {rest : List String} {next : Nat}
    (ih : ∀ links here names, (fs.add p node).2.walk follow fuel links here names = .ok k →
      fs.walk follow fuel links here names = .ok k ∨ k = fs.nodes.size)
    (h : (fs.add p node).2.proceed follow fuel links here rest next = .ok k) :
    fs.proceed follow fuel links here rest next = .ok k ∨ k = fs.nodes.size := by
  by_cases hnew : next = fs.nodes.size
  · rw [proceed, hnew, body?_add hdir, if_pos rfl, hfile] at h
    exact Or.inr (walk_new hdir hfile h)
  rw [proceed, body?_add hdir, if_neg hnew] at h
  rw [proceed]
  by_cases hplace : next = p.directory
  · rw [if_pos hplace] at h
    rw [hplace, hdir]
    exact ih _ _ _ (hplace ▸ h)
  rw [if_neg hplace] at h
  split at h
  · split at h
    · next hlast =>
      rw [if_pos hlast]
      exact Or.inl h
    · next hfollow =>
      rw [if_neg hfollow]
      cases links with
      | zero => cases h
      | succ links => exact ih _ _ _ h
  · exact ih _ _ _ h

/-- A path that leads somewhere once a file is there has led there before, or leads to the file. -/
theorem walk_add (h : (fs.add p node).2.walk follow fuel links here names = .ok k) :
    fs.walk follow fuel links here names = .ok k ∨ k = fs.nodes.size := by
  induction fuel generalizing links here names with
  | zero =>
    cases names with
    | nil => exact Or.inl h
    | cons name rest => cases h
  | succ fuel ih =>
    rcases names with _ | ⟨name, rest⟩
    · exact Or.inl h
    rcases hwas : (fs.add p node).2.isDirectory here
    · rw [walk_notDirectory hwas] at h
      cases h
    obtain ⟨parent', entries', hbody'⟩ := isDirectory_iff.mp hwas
    obtain ⟨old, hbody, hlookup⟩ := directory_of_add hdir hfile hbody'
    rw [walk_directory hbody'] at h
    rw [walk_directory hbody]
    by_cases hdot : name = "."
    · rw [if_pos hdot] at h ⊢
      exact ih h
    by_cases hdots : name = ".."
    · rw [if_neg hdot, if_pos hdots] at h ⊢
      exact ih h
    by_cases hlong : nameLimit < name.length
    · rw [if_neg hdot, if_neg hdots, if_pos hlong] at h
      cases h
    rw [if_neg hdot, if_neg hdots, if_neg hlong] at h ⊢
    split at h
    · cases h
    · next next hfound =>
      rcases hlookup name next hfound with hold | hnew
      · rw [hold]
        exact proceed_add hdir hfile (fun _ _ _ => ih) h
      · rw [proceed, hnew, body?_add hdir, if_pos rfl, hfile] at h
        exact Or.inr (walk_new hdir hfile h)

end

section
variable {fs : FileSystem} {follow : Bool} {fuel links here parent k : Nat} {entries : List (String × Nat)}
  {names : List String} {p : Place} {node : Node}
  (hdir : fs.body? p.directory = some (.directory parent entries))
include hdir

/-- A directory keeps its entries in front of a new one. -/
theorem directory_add {parent' : Nat} {entries' : List (String × Nat)}
    (h : fs.body? here = some (.directory parent' entries')) :
    ∃ more, (fs.add p node).2.body? here = some (.directory parent' (entries' ++ more)) := by
  rw [body?_add hdir, if_neg (ne_size_of_body? h)]
  by_cases hplace : here = p.directory
  · rw [hplace, hdir] at h
    cases h
    exact ⟨_, if_pos hplace⟩
  · exact ⟨[], by rw [if_neg hplace, h, List.append_nil]⟩

theorem proceed_add_of_proceed {rest : List String} {next : Nat} (hk : k ≠ fs.nodes.size)
    (ih : ∀ links here names, fs.walk follow fuel links here names = .ok k →
      (fs.add p node).2.walk follow fuel links here names = .ok k)
    (h : fs.proceed follow fuel links here rest next = .ok k) :
    (fs.add p node).2.proceed follow fuel links here rest next = .ok k := by
  rw [proceed] at h
  by_cases hnew : next = fs.nodes.size
  · -- There was nothing under this number, so the walk has either ended at it or failed.
    have hnowhere : fs.isDirectory fs.nodes.size = false := by
      rw [isDirectory, body?_size]
      rfl
    rw [hnew, body?_size] at h
    exact absurd (eq_of_walk_notDirectory hnowhere h) hk
  rw [proceed, body?_add hdir, if_neg hnew]
  by_cases hplace : next = p.directory
  · rw [hplace, hdir] at h
    rw [if_pos hplace, hplace]
    exact ih _ _ _ h
  rw [if_neg hplace]
  split at h
  · split at h
    · next hlast =>
      rw [if_pos hlast]
      exact h
    · next hfollow =>
      rw [if_neg hfollow]
      cases links with
      | zero => cases h
      | succ links => exact ih _ _ _ h
  · exact ih _ _ _ h

/-- A path that led to a node leads there still. -/
theorem walk_add_of_walk (hk : k ≠ fs.nodes.size) (h : fs.walk follow fuel links here names = .ok k) :
    (fs.add p node).2.walk follow fuel links here names = .ok k := by
  induction fuel generalizing links here names with
  | zero =>
    cases names with
    | nil => exact h
    | cons name rest => cases h
  | succ fuel ih =>
    rcases names with _ | ⟨name, rest⟩
    · exact h
    rcases hwas : fs.isDirectory here
    · rw [walk_notDirectory hwas] at h
      cases h
    obtain ⟨parent', entries', hbody⟩ := isDirectory_iff.mp hwas
    have hkept : ∃ more, (fs.add p node).2.body? here = some (.directory parent' (entries' ++ more)) :=
      directory_add hdir hbody
    obtain ⟨more, hbody'⟩ := hkept
    rw [walk_directory hbody] at h
    rw [walk_directory hbody']
    by_cases hdot : name = "."
    · rw [if_pos hdot] at h ⊢
      exact ih h
    by_cases hdots : name = ".."
    · rw [if_neg hdot, if_pos hdots] at h ⊢
      exact ih h
    by_cases hlong : nameLimit < name.length
    · rw [if_neg hdot, if_neg hdots, if_pos hlong] at h
      cases h
    rw [if_neg hdot, if_neg hdots, if_neg hlong] at h ⊢
    split at h
    · cases h
    · next next hfound =>
      rw [List.lookup_append, hfound]
      exact proceed_add_of_proceed hdir hk (fun _ _ _ => ih) h

end

/-! ### Opening a file to write it -/

section
variable {fs fs₁ fs₂ : FileSystem} {here now mode id id' : Nat} {path : String} {how : Opening} {p : Place}

theorem find_eq_ok_iff {follow : Bool} :
    fs.find here path follow = .ok id ↔
      checkPath path = .ok () ∧
      fs.walk (follow || endsInSlash path) stepLimit linkLimit (start here path) (steps path) = .ok id ∧
      (endsInSlash path && !fs.isDirectory id) = false := by
  simp only [find, bind_eq_ok, ite_error_eq_ok]
  constructor
  · rintro ⟨⟨⟩, hcheck, k, hwalk, hslash, hk⟩
    cases hk
    exact ⟨hcheck, hwalk, Bool.not_eq_true _ ▸ hslash⟩
  · rintro ⟨hcheck, hwalk, hslash⟩
    exact ⟨(), hcheck, id, hwalk, by simp [hslash], rfl⟩

theorem isDirectory_of_place? (h : fs.place? here path = .ok (some p)) : fs.isDirectory p.directory = true := by
  obtain ⟨⟨⟩, -, h⟩ := bind_eq_ok.mp h
  dsimp only at h
  split at h
  · cases h
  obtain ⟨directory, -, h⟩ := bind_eq_ok.mp h
  obtain ⟨hdir, h⟩ := ite_error_eq_ok.mp h
  split at h
  · cases h
  obtain ⟨-, h⟩ := ite_error_eq_ok.mp h
  cases h
  simpa using hdir

theorem openNode_eq_ok (h : fs.openNode now how id = .ok (id', fs₁)) : id' = id ∧ Alike fs fs₁ := by
  rw [openNode] at h
  split at h
  · cases h
  · split at h
    · cases h
    · cases h
      exact ⟨rfl, .refl fs⟩
  · cases h
  · cases h
    refine ⟨rfl, ?_⟩
    split
    · exact alike_setContent fs id now .empty
    · exact .refl fs
  · cases h
    exact ⟨rfl, .refl fs⟩

/-- Of the nodes only the one that is opened may change. -/
theorem body?_of_openNode {k : Nat} (h : fs.openNode now how id = .ok (id', fs₁)) (hk : k ≠ id) :
    fs₁.body? k = fs.body? k := by
  rw [openNode] at h
  split at h
  · cases h
  · split at h
    · cases h
    · cases h
      rfl
  · cases h
  · cases h
    split
    · exact body?_setContent_of_ne .empty hk
    · rfl
  · cases h
    rfl

/-- What is opened to be written is what the path leads to, or a new file in a directory. -/
theorem openPath_writing (hopen : fs.openPath here now path .writing mode = .ok (id, fs₁)) :
    (fs.find here path true = .ok id ∧ fs.openNode now .writing id = .ok (id, fs₁)) ∨
      ∃ e p, fs.find here path true = .error e ∧ endsInSlash path = false ∧ fs.isDirectory p.directory = true ∧
        fs.add p ⟨.file .empty, mode, now⟩ = (id, fs₁) := by
  rw [openPath] at hopen
  split at hopen
  · next k hk =>
    obtain ⟨-, hopen⟩ := ite_error_eq_ok.mp hopen
    obtain ⟨-, hopen⟩ := ite_error_eq_ok.mp hopen
    obtain ⟨rfl, -⟩ := openNode_eq_ok hopen
    exact Or.inl ⟨hk, hopen⟩
  · next e he =>
    have hcreate : Opening.writing.create = true := rfl
    rw [if_pos hcreate] at hopen
    obtain ⟨place, hplace, hopen⟩ := bind_eq_ok.mp hopen
    split at hopen
    · cases hopen
    obtain ⟨hslash, hopen⟩ := ite_error_eq_ok.mp hopen
    obtain ⟨-, hopen⟩ := ite_error_eq_ok.mp hopen
    exact Or.inr ⟨e, _, he, by simpa using hslash, isDirectory_of_place? hplace, Except.ok.inj hopen⟩

/-- A path that can be opened to be written leads to the node that was opened, if it leads anywhere. -/
theorem find_of_openPath (hopen : fs.openPath here now path .writing mode = .ok (id, fs₁))
    (halike : Alike fs₁ fs₂) (hfind : fs₂.find here path true = .ok id') : id' = id := by
  rw [← halike.find_eq] at hfind
  rcases openPath_writing hopen with ⟨hk, hnode⟩ | ⟨e, p, he, hslash, hplace, hadd⟩
  · rw [← (openNode_eq_ok hnode).2.find_eq, hk] at hfind
    exact (Except.ok.inj hfind).symm
  · obtain ⟨parent, entries, hdir⟩ := isDirectory_iff.mp hplace
    cases hadd
    obtain ⟨hcheck, hwalk, -⟩ := find_eq_ok_iff.mp hfind
    rcases walk_add hdir rfl hwalk with hold | hnew
    · have hfound : fs.find here path true = .ok id' := find_eq_ok_iff.mpr ⟨hcheck, hold, by simp [hslash]⟩
      rw [he] at hfound
      cases hfound
    · exact hnew

/-- A path that leads to a file leads there still when another path has been opened to be written, and the
    file holds what it held, unless it is the one that was opened. -/
theorem file_of_openPath {other : String} {k : Nat} {kept : ByteArray}
    (hopen : fs.openPath here now path .writing mode = .ok (id, fs₁)) (hfind : fs.find here other true = .ok k)
    (hfile : fs.body? k = some (.file kept)) :
    fs₁.find here other true = .ok k ∧ (fs.find here path true = .ok k ↔ k = id) ∧
      ∃ content, fs₁.body? k = some (.file content) ∧ (k ≠ id → content = kept) := by
  rcases openPath_writing hopen with ⟨hid, hnode⟩ | ⟨e, p, he, -, hplace, hadd⟩
  · have halike : Alike fs fs₁ := (openNode_eq_ok hnode).2
    obtain ⟨content, hcontent⟩ := halike.file hfile
    refine ⟨halike.find_eq ▸ hfind, ?_, content, hcontent, fun hk => ?_⟩
    · rw [hid, Except.ok.injEq, eq_comm]
    · rw [body?_of_openNode hnode hk, hfile] at hcontent
      cases hcontent
      rfl
  · obtain ⟨parent, entries, hdir⟩ := isDirectory_iff.mp hplace
    have hold : k ≠ fs.nodes.size := ne_size_of_body? hfile
    have hother : k ≠ p.directory := by
      rintro rfl
      rw [hdir] at hfile
      cases hfile
    obtain rfl : (fs.add p ⟨.file .empty, mode, now⟩).2 = fs₁ := congrArg Prod.snd hadd
    have hid : id = fs.nodes.size := (congrArg Prod.fst hadd).symm
    have hbody : (fs.add p ⟨.file .empty, mode, now⟩).2.body? k = some (.file kept) := by
      rw [body?_add hdir, if_neg hold, if_neg hother, hfile]
    refine ⟨?_, ?_, kept, hbody, fun _ => rfl⟩
    · obtain ⟨hcheck, hwalk, hslash⟩ := find_eq_ok_iff.mp hfind
      refine find_eq_ok_iff.mpr ⟨hcheck, walk_add_of_walk hdir hold hwalk, ?_⟩
      rwa [isDirectory, hbody, ← hfile]
    · rw [he, hid]
      exact iff_of_false nofun hold

end

end KernelAudit.Machine.FileSystem
