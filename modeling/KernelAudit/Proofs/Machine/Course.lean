import KernelAudit.Probe.Site
import KernelAudit.Proofs.Machine.Programs
import Mathlib.Data.List.Nodup
import Mathlib.Data.List.Perm.Subperm

/-! The course of a machine. Whatever a process asks for, whatever becomes of a process and whoever has the next
    turn, the machine stays sound: its processes and what they have open are told apart by their numbers, nothing
    is forgotten that a process has open, nor a pipe of which an end is open, and time does not go back. A run
    ends when what it waits for is the case or its time has come, so a program that is killed at its deadline has
    had all of its time. -/

namespace KernelAudit.Machine

namespace Computer

/-- Processes have different numbers and so has what is open, numbers that are given out later being new; what a
    process has open is there, and so is each pipe that somebody can write into or read from. -/
structure Sound (c : Computer) : Prop where
  task_lt : ∀ t ∈ c.tasks, t.id < c.nextTask
  nodup_tasks : (c.tasks.map Task.id).Nodup
  file_lt : ∀ o ∈ c.opened, o.id < c.nextFile
  nodup_opened : (c.opened.map OpenFile.id).Nodup
  is_open : ∀ t ∈ c.tasks, ∀ d ∈ t.descriptors, ∃ o ∈ c.opened, o.id = d.file
  has_pipe : ∀ o ∈ c.opened, ∀ pipe, o.object.pipe? = some pipe → ∃ p ∈ c.pipes, p.id = pipe

/-- What every change of a machine keeps. -/
structure Kept (c c' : Computer) : Prop where
  sound : c.Sound → c'.Sound
  clock_le : c.clock ≤ c'.clock
  programs : c.files.ProgramsFrom c'.files

theorem Kept.refl (c : Computer) : Kept c c := ⟨id, Nat.le_refl _, .refl _⟩

theorem Kept.trans {a b c : Computer} (h : Kept a b) (h' : Kept b c) : Kept a c :=
  ⟨h'.sound ∘ h.sound, Nat.le_trans h.clock_le h'.clock_le, h.programs.trans h'.programs⟩

theorem Kept.of_sound {c c' : Computer} (hfiles : c'.files = c.files) (hclock : c'.clock = c.clock)
    (hsound : c.Sound → c'.Sound) : Kept c c' :=
  ⟨hsound, Nat.le_of_eq hclock.symm, hfiles ▸ .refl c.files⟩

theorem kept_foldl {α : Type} {f : Computer → α → Computer} (h : ∀ c a, Kept c (f c a)) (l : List α) (c : Computer) :
    Kept c (l.foldl f c) := by
  induction l generalizing c with
  | nil => exact .refl c
  | cons a rest ih => exact (h c a).trans (ih _)

section
variable {c : Computer} {t : Task} {id number : Nat}

theorem mem_of_task? (h : c.task? id = some t) : t ∈ c.tasks := List.mem_of_find?_eq_some h

theorem mem_of_opened? {file : OpenFile} (h : c.opened? t number = some file) : file ∈ c.opened := by
  obtain ⟨d, -, hfile⟩ := Option.bind_eq_some_iff.mp h
  exact List.mem_of_find?_eq_some hfile

theorem mem_of_descriptor? {d : Descriptor} (h : t.descriptor? number = some d) : d ∈ t.descriptors :=
  List.mem_of_find?_eq_some h

/-! ### Changes of the parts -/

theorem Sound.withTasks {tasks : List Task} (h : c.Sound) (hids : (tasks.map Task.id).Subperm (c.tasks.map Task.id))
    (hopen : ∀ t ∈ tasks, ∀ d ∈ t.descriptors, ∃ o ∈ c.opened, o.id = d.file) :
    ({ c with tasks } : Computer).Sound := by
  obtain ⟨ids, hperm, hsub⟩ := hids
  refine ⟨fun t ht => ?_, hperm.nodup_iff.mp (h.nodup_tasks.sublist hsub), h.file_lt, h.nodup_opened, hopen, h.has_pipe⟩
  obtain ⟨old, hold, hid⟩ := List.mem_map.mp (hsub.subset (hperm.mem_iff.mpr (List.mem_map_of_mem ht)))
  exact hid ▸ h.task_lt old hold

/-- Some processes are given up, and what is left of the others keeps its numbers. -/
theorem Sound.mapTasks {g : Task → Task} (h : c.Sound) (isLeft : Task → Bool) (hid : ∀ t, (g t).id = t.id)
    (hopen : ∀ t ∈ c.tasks, ∀ d ∈ (g t).descriptors, ∃ o ∈ c.opened, o.id = d.file) :
    ({ c with tasks := (c.tasks.filter isLeft).map g } : Computer).Sound := by
  have hids : ((c.tasks.filter isLeft).map g).map Task.id = (c.tasks.filter isLeft).map Task.id := by
    rw [List.map_map]
    exact List.map_congr_left fun t _ => hid t
  refine h.withTasks ?_ (List.forall_mem_map.mpr fun t ht => hopen t (List.mem_of_mem_filter ht))
  rw [hids]
  exact (List.filter_sublist.map _).subperm

theorem Sound.setTask {f : Task → Task} (h : c.Sound) (hid : ∀ t, (f t).id = t.id)
    (hopen : ∀ t ∈ c.tasks, ∀ d ∈ (f t).descriptors, ∃ o ∈ c.opened, o.id = d.file) : (c.setTask id f).Sound := by
  have hall : c.tasks.filter (fun _ => true) = c.tasks := List.filter_eq_self.mpr fun _ _ => rfl
  rw [Computer.setTask, ← hall]
  refine h.mapTasks (fun _ => true) (fun t => ?_) fun t ht => ?_
  · split
    · exact hid t
    · rfl
  · split
    · exact hopen t ht
    · exact h.is_open t ht

theorem kept_setTask {f : Task → Task} (hid : ∀ t, (f t).id = t.id)
    (hopen : c.Sound → ∀ t ∈ c.tasks, ∀ d ∈ (f t).descriptors, ∃ o ∈ c.opened, o.id = d.file) :
    Kept c (c.setTask id f) :=
  .of_sound rfl rfl fun h => h.setTask hid (hopen h)

/-- A change of a process that leaves alone what it has open. -/
theorem kept_setTask_of_descriptors {f : Task → Task} (hid : ∀ t, (f t).id = t.id)
    (hdescriptors : ∀ t, (f t).descriptors = t.descriptors) : Kept c (c.setTask id f) :=
  kept_setTask hid fun h t ht d hd => h.is_open t ht d (hdescriptors t ▸ hd)

theorem kept_setFile {f : OpenFile → OpenFile} (hid : ∀ o, (f o).id = o.id) (hobject : ∀ o, (f o).object = o.object) :
    Kept c (c.setFile id f) := by
  refine .of_sound rfl rfl fun h => ?_
  have hkept : ∀ o, ((if o.id = id then f o else o).id = o.id) ∧ (if o.id = id then f o else o).object = o.object := by
    intro o
    split
    · exact ⟨hid o, hobject o⟩
    · exact ⟨rfl, rfl⟩
  have hids : ((c.setFile id f).opened.map OpenFile.id) = c.opened.map OpenFile.id := by
    rw [setFile, List.map_map]
    exact List.map_congr_left fun o _ => (hkept o).1
  refine ⟨h.task_lt, h.nodup_tasks, ?_, hids ▸ h.nodup_opened, fun t ht d hd => ?_, ?_⟩
  · exact List.forall_mem_map.mpr fun o ho => (hkept o).1.symm ▸ h.file_lt o ho
  · obtain ⟨o, ho, hfile⟩ := h.is_open t ht d hd
    exact ⟨_, List.mem_map_of_mem ho, (hkept o).1.trans hfile⟩
  · exact List.forall_mem_map.mpr fun o ho => (hkept o).2 ▸ h.has_pipe o ho

theorem kept_setPipe {f : Pipe → Pipe} (hid : ∀ p, p.id = id → (f p).id = id) : Kept c (c.setPipe id f) := by
  refine .of_sound rfl rfl fun h => ⟨h.task_lt, h.nodup_tasks, h.file_lt, h.nodup_opened, h.is_open, ?_⟩
  intro o ho pipe hpipe
  obtain ⟨p, hp, rfl⟩ := h.has_pipe o ho pipe hpipe
  refine ⟨_, List.mem_map_of_mem hp, ?_⟩
  split
  · next heq => rw [hid p heq, heq]
  · rfl

theorem kept_withFiles {files : FileSystem} (h : c.files.ProgramsFrom files) : Kept c { c with files } :=
  ⟨fun h => ⟨h.task_lt, h.nodup_tasks, h.file_lt, h.nodup_opened, h.is_open, h.has_pipe⟩, Nat.le_refl _, h⟩

theorem kept_withClock {clock : Nat} (hclock : c.clock ≤ clock) : Kept c { c with clock } :=
  ⟨fun h => ⟨h.task_lt, h.nodup_tasks, h.file_lt, h.nodup_opened, h.is_open, h.has_pipe⟩, hclock, .refl _⟩

/-- What is forgotten is open nowhere. -/
theorem kept_dropUnused (file : Nat) : Kept c (c.dropUnused file) := by
  rw [dropUnused]
  split
  · exact .refl c
  next hunused =>
  have hkept : c.Sound → ({ c with opened := c.opened.filter (·.id ≠ file) } : Computer).Sound := by
    intro h
    have hsub : (c.opened.filter (·.id ≠ file)).Sublist c.opened := List.filter_sublist
    refine ⟨h.task_lt, h.nodup_tasks, fun o ho => h.file_lt o (hsub.subset ho),
      h.nodup_opened.sublist (hsub.map _), fun t ht d hd => ?_, fun o ho => h.has_pipe o (hsub.subset ho)⟩
    obtain ⟨o, ho, hfile⟩ := h.is_open t ht d hd
    refine ⟨o, List.mem_filter.mpr ⟨ho, decide_eq_true fun heq => hunused ?_⟩, hfile⟩
    exact List.any_eq_true.mpr ⟨t, ht, List.any_eq_true.mpr ⟨d, hd, decide_eq_true (hfile ▸ heq)⟩⟩
  dsimp only
  split
  · exact .of_sound rfl rfl hkept
  · next pipe _ =>
    split
    · exact .of_sound rfl rfl hkept
    · next hclosed =>
      refine .of_sound rfl rfl fun h => ?_
      obtain ⟨htask, hnodup, hfile, hnodup', hopen, hpipes⟩ := hkept h
      refine ⟨htask, hnodup, hfile, hnodup', hopen, fun o ho number hnumber => ?_⟩
      obtain ⟨p, hp, hid⟩ := hpipes o ho number hnumber
      -- Both ends of the pipe that is given up are closed, so an open end is one of another pipe.
      have hother : number ≠ pipe := by
        rintro rfl
        exact hclosed (List.any_eq_true.mpr ⟨o, ho, decide_eq_true hnumber⟩)
      exact ⟨p, List.mem_filter.mpr ⟨hp, by simp [hid, hother]⟩, hid⟩

theorem kept_closeFor : Kept c (c.closeFor id number) := by
  rw [closeFor]
  split
  · exact .refl c
  · have hgone : Kept c (c.setTask id (·.withoutDescriptor number)) :=
      kept_setTask (fun _ => rfl) fun h t ht d hd => h.is_open t ht d (List.mem_of_mem_filter hd)
    exact hgone.trans (kept_dropUnused _)

theorem forall_mem_withDescriptor {d : Descriptor} {P : Descriptor → Prop} (hd : P d) (h : ∀ d ∈ t.descriptors, P d) :
    ∀ d' ∈ (t.withDescriptor d).descriptors, P d' := by
  rw [Task.withDescriptor, List.forall_mem_cons]
  exact ⟨hd, fun d' hd' => h d' (List.mem_of_mem_filter hd')⟩

/-- An end of a pipe is opened while the pipe is there. -/
theorem kept_openFor {object : Object} {readable writable append : Bool}
    (hpipe : c.Sound → ∀ pipe, object.pipe? = some pipe → ∃ p ∈ c.pipes, p.id = pipe) :
    Kept c (c.openFor t object readable writable append).2 := by
  let file : OpenFile := ⟨c.nextFile, object, 0, readable, writable, append⟩
  have hopened : c.Sound → ({ c with opened := file :: c.opened, nextFile := c.nextFile + 1 } : Computer).Sound := by
    intro h
    refine ⟨h.task_lt, h.nodup_tasks, ?_, ?_, fun t ht d hd => ?_, List.forall_mem_cons.mpr ⟨hpipe h, h.has_pipe⟩⟩
    · exact List.forall_mem_cons.mpr ⟨Nat.lt_succ_self _, fun o ho => Nat.lt_succ_of_lt (h.file_lt o ho)⟩
    · rw [List.map_cons, List.nodup_cons]
      refine ⟨fun hmem => ?_, h.nodup_opened⟩
      obtain ⟨o, ho, hid⟩ := List.mem_map.mp hmem
      exact absurd hid (Nat.ne_of_lt (h.file_lt o ho))
    · obtain ⟨o, ho, hfile⟩ := h.is_open t ht d hd
      exact ⟨o, List.mem_cons_of_mem _ ho, hfile⟩
  refine .of_sound rfl rfl fun h => (hopened h).setTask (fun _ => rfl) fun u hu => ?_
  exact forall_mem_withDescriptor ⟨file, List.mem_cons_self, rfl⟩ ((hopened h).is_open u hu)

/-! ### The end of a process -/

theorem kept_finish {ending : Ending} : Kept c (c.finish id ending) := by
  rw [finish]
  split
  · exact .refl c
  next t _ =>
  let c₁ := c.setTask id fun t => { t with condition := .ended ending, stopped := false, descriptors := [] }
  let c₂ := t.descriptors.foldl (fun c d => c.dropUnused d.file) c₁
  have hended : Kept c c₁ := kept_setTask (fun _ => rfl) nofun
  have hclosed : Kept c₁ c₂ := kept_foldl (fun c (d : Descriptor) => kept_dropUnused d.file) _ _
  refine (hended.trans hclosed).trans (.of_sound rfl rfl fun h => h.mapTasks _ (fun u => ?_) fun u hu => ?_)
  · split
    · rfl
    · split <;> rfl
  · have hdescriptors : ∀ u : Task, (if u.parent = id then { u with parent := orphanage }
        else if u.id = t.parent && u.disposition .child = .caught then u.note .child else u).descriptors =
          u.descriptors := by
      intro u
      split
      · rfl
      · split <;> rfl
    rw [hdescriptors]
    exact h.is_open u hu

/-- Signals end processes, stop them, let them go on or are noted. -/
theorem kept_deliver {s : Signal} : Kept c (c.deliver id s) := by
  have hset : ∀ {c : Computer} {f : Task → Task}, (∀ t, (f t).id = t.id) → (∀ t, (f t).descriptors = t.descriptors) →
      Kept c (c.setTask id f) := kept_setTask_of_descriptors
  rw [deliver]
  split
  · exact .refl c
  next t _ =>
  split
  · exact .refl c
  split
  · exact kept_finish
  split
  · exact hset (fun _ => rfl) fun _ => rfl
  have hresumed : Kept c (if s = .resume then c.setTask id fun t => { t with stopped := false } else c) := by
    split
    · exact hset (fun _ => rfl) fun _ => rfl
    · exact .refl c
  refine hresumed.trans ?_
  cases t.disposition s with
  | ignored => exact .refl _
  | caught => exact hset (fun _ => rfl) fun _ => rfl
  | standard =>
    cases s.defaultAction with
    | terminate | dumpCore => exact kept_finish
    | stop => exact hset (fun _ => rfl) fun _ => rfl
    | ignore | resume => exact .refl _

/-! ### Answers -/

/-- Whatever the answer is, the machine is kept. -/
def Keeps {α : Type} (c : Computer) (reply : Reply α) : Prop := ∀ a c', reply = some (a, c') → Kept c c'

theorem keeps_none {α : Type} : Keeps c (none : Reply α) := nofun

theorem keeps_some {α : Type} {a : α} {c' : Computer} (h : Kept c c') : Keeps c (some (a, c')) := by
  rintro _ _ ⟨⟩
  exact h

theorem keeps_answer {α : Type} {a : α} : Keeps c (some (a, c)) := keeps_some (.refl c)

theorem keeps_refuse {α : Type} {e : Errno} : Keeps c (c.refuse e : Reply (Except Errno α)) := keeps_answer

theorem keeps_changed {result : Except Errno FileSystem} (h : ∀ files, result = .ok files → c.files.ProgramsFrom files) :
    Keeps c (c.changed result) := by
  cases result with
  | error e => exact keeps_refuse
  | ok files => exact keeps_some (kept_withFiles (h files rfl))

theorem keeps_openPath {path : String} {how : FileSystem.Opening} : Keeps c (c.openPath t path how) := by
  rw [openPath]
  split
  · exact keeps_refuse
  split
  · exact keeps_refuse
  next node files hnode =>
  have hopened : Kept c { c with files } := kept_withFiles (.openPath hnode)
  dsimp only
  split
  · exact keeps_some (hopened.trans (kept_openFor (by rintro - _ ⟨⟩)))
  · split
    · exact keeps_some hopened
    · next file hfile =>
      refine keeps_some (hopened.trans (kept_openFor fun h => ?_))
      exact h.has_pipe file (mem_of_opened? hfile)

theorem kept_duplicateFor {target : Nat} {setAside : Bool} (ht : t ∈ c.tasks) :
    Kept c (c.duplicateFor t number target setAside) := by
  rw [duplicateFor]
  split
  · exact .refl c
  next d hd =>
  have hgiven : Kept c (c.setTask t.id (·.withDescriptor ⟨target, d.file, setAside⟩)) := by
    refine kept_setTask (fun _ => rfl) fun h u hu => ?_
    exact forall_mem_withDescriptor (h.is_open t ht d (mem_of_descriptor? hd)) (h.is_open u hu)
  dsimp only
  split
  · exact hgiven
  · exact hgiven.trans (kept_dropUnused _)

theorem keeps_readPipe {p : Pipe} {count : Nat} : Keeps c (c.readPipe p count) := by
  rw [readPipe]
  dsimp only
  split
  · split
    · exact keeps_none
    · exact keeps_answer
  · refine keeps_some (kept_setPipe fun _ _ => ?_)
    split <;> rfl

theorem keeps_readNode {file : OpenFile} {node count : Nat} : Keeps c (c.readNode file node count) := by
  rw [readNode]
  split
  · exact keeps_some (kept_setFile (fun _ => rfl) fun _ => rfl)
  · exact keeps_refuse
  · exact keeps_answer
  · exact keeps_answer

theorem keeps_readFrom {count : Nat} : Keeps c (c.readFrom t number count) := by
  rw [readFrom]
  split
  · exact keeps_refuse
  split
  · exact keeps_refuse
  split
  · exact keeps_readNode
  · exact keeps_refuse
  split
  · exact keeps_answer
  split
  · split
    · exact keeps_refuse
    · exact keeps_none
  · exact keeps_readPipe

theorem keeps_writePipe {p : Pipe} {text : String} : Keeps c (c.writePipe t p text) := by
  rw [writePipe]
  split
  · exact keeps_some kept_deliver
  dsimp only
  split
  · exact keeps_some (kept_setPipe fun _ => id)
  split
  · exact keeps_none
  · exact keeps_some (kept_setPipe fun _ => id)

theorem keeps_writeNode {file : OpenFile} {node : Nat} {text : String} : Keeps c (c.writeNode file node text) := by
  rw [writeNode]
  split
  · exact keeps_some ((kept_withFiles (.writeAt _ _)).trans (kept_setFile (fun _ => rfl) fun _ => rfl))
  · exact keeps_refuse
  · exact keeps_answer
  · exact keeps_refuse

theorem keeps_writeTo {text : String} : Keeps c (c.writeTo t number text) := by
  rw [writeTo]
  split
  · exact keeps_refuse
  split
  · exact keeps_refuse
  split
  · exact keeps_writeNode
  · exact keeps_refuse
  split
  · exact keeps_refuse
  · exact keeps_writePipe

theorem keeps_stepBack {count : Nat} : Keeps c (c.stepBack t number count) := by
  rw [stepBack]
  split
  · exact keeps_refuse
  split
  · exact keeps_some (kept_setFile (fun _ => rfl) fun _ => rfl)
  · exact keeps_refuse

theorem kept_makePipe : Kept c (c.makePipe t).2 := by
  let c₁ : Computer := { c with pipes := ⟨c.nextFile, .empty, 0, false, []⟩ :: c.pipes, nextFile := c.nextFile + 1 }
  have hmade : Kept c c₁ := by
    refine .of_sound rfl rfl fun h => ⟨h.task_lt, h.nodup_tasks, fun o ho => Nat.lt_succ_of_lt (h.file_lt o ho),
      h.nodup_opened, h.is_open, fun o ho pipe hpipe => ?_⟩
    obtain ⟨p, hp, hid⟩ := h.has_pipe o ho pipe hpipe
    exact ⟨p, List.mem_cons_of_mem _ hp, hid⟩
  have hends : ∀ pipe, c.nextFile = pipe → ∃ p ∈ c₁.pipes, p.id = pipe := by
    rintro _ rfl
    exact ⟨_, List.mem_cons_self, rfl⟩
  have hsource : Kept c₁ (c₁.openFor t (.source c.nextFile) true false false).2 :=
    kept_openFor fun _ pipe hpipe => hends pipe (Option.some.inj hpipe)
  rw [makePipe]
  dsimp only
  split
  · exact hmade.trans hsource
  · refine (hmade.trans hsource).trans (kept_openFor fun _ pipe hpipe => ?_)
    exact hends pipe (Option.some.inj hpipe)

/-- A process that has ended is given up when its parent asks for it. -/
theorem keeps_awaitFor {child : Option Nat} {block : Bool} : Keeps c (c.awaitFor t child block) := by
  rw [awaitFor]
  dsimp only
  split
  · refine keeps_some (.of_sound rfl rfl fun h => h.withTasks (List.filter_sublist.map _).subperm fun u hu => ?_)
    exact h.is_open u (List.mem_of_mem_filter hu)
  split
  · exact keeps_answer
  split
  · exact keeps_answer
  split
  · exact keeps_answer
  · exact keeps_none

theorem keeps_sendFrom {addressee : Addressee} {s : Signal} : Keeps c (c.sendFrom t addressee s) := by
  have hsent : ∀ addressees : List Nat, Keeps c (if addressees.isEmpty then c.refuse .noProcess
      else if Signal.last < s.number then c.refuse .invalid
      else if s.number = 0 then some (.ok (), c)
      else some (.ok (), addressees.foldl (fun c id => c.deliver id s) c) : Reply (Except Errno Unit)) := by
    intro addressees
    split
    · exact keeps_refuse
    split
    · exact keeps_refuse
    split
    · exact keeps_answer
    · exact keeps_some (kept_foldl (fun c id => kept_deliver) addressees c)
  exact hsent _

theorem kept_renewTask : Kept c (c.renewTask t) := by
  let dispositions := t.dispositions.filter (·.2 = .ignored)
  have hleft : Kept c (c.setTask t.id fun t => { t with dispositions, caught := [] }) :=
    kept_setTask_of_descriptors (fun _ => rfl) fun _ => rfl
  exact hleft.trans (kept_foldl (fun c (d : Descriptor) => kept_closeFor) _ _)

/-- Whatever a process asks for, the machine is kept when it has its answer. -/
theorem keeps_looked {α : Type} {found : Except Errno Nat} {f : Nat → Reply (Except Errno α)} (hf : ∀ id, Keeps c (f id)) :
    Keeps c (match found with
      | .error e => c.refuse e
      | .ok id => f id) := by
  cases found with
  | error e => exact keeps_refuse
  | ok id => exact hf id

theorem keeps_request (ht : t ∈ c.tasks) (request : Call) : Keeps c (c.answer t request) := by
  cases request with
  | work cost => exact keeps_some (kept_withClock (Nat.le_add_right _ _))
  | clock | ownId | parentId | status | workingDirectory | disposition => exact keeps_answer
  | sleepUntil time =>
    rw [answer]
    split
    · exact keeps_answer
    split
    · exact keeps_answer
    · exact keeps_none
  | openFile path how => exact keeps_openPath
  | close number =>
    rw [answer]
    split
    · exact keeps_some kept_closeFor
    · exact keeps_refuse
  | duplicate number least =>
    rw [answer]
    split
    · exact keeps_some (kept_duplicateFor ht)
    · exact keeps_refuse
  | duplicateTo number target =>
    rw [answer]
    split
    · exact keeps_some (kept_duplicateFor ht)
    · exact keeps_refuse
  | read number count => exact keeps_readFrom
  | unread number count => exact keeps_stepBack
  | write number text => exact keeps_writeTo
  | pipe => exact keeps_some kept_makePipe
  | statusOf number =>
    rw [answer]
    split
    · exact keeps_answer
    · exact keeps_refuse
  | list path =>
    refine keeps_looked fun id => ?_
    split
    · exact keeps_answer
    · exact keeps_refuse
  | linkTarget path =>
    refine keeps_looked fun id => ?_
    split
    · exact keeps_answer
    · exact keeps_refuse
  | changeDirectory path =>
    refine keeps_looked fun id => ?_
    split
    · exact keeps_some (kept_setTask_of_descriptors (fun _ => rfl) fun _ => rfl)
    · exact keeps_refuse
  | makeDirectory path mode => exact keeps_changed fun _ => .makeDirectory
  | removeDirectory path => exact keeps_changed fun _ => .removeDirectory
  | unlink path => exact keeps_changed fun _ => .unlink
  | rename source target => exact keeps_changed fun _ => .rename
  | makeLink target path => exact keeps_changed fun _ => .makeLink
  | linkTo source target => exact keeps_changed fun _ => .linkTo
  | setMode path mode => exact keeps_changed fun _ => .ofFound fun _ => rfl
  | touch path => exact keeps_changed fun _ => .ofFound fun _ => rfl
  | setMask | arrange | caught => exact keeps_some (kept_setTask_of_descriptors (fun _ => rfl) fun _ => rfl)
  | await child block => exact keeps_awaitFor
  | send addressee signal => exact keeps_sendFrom
  | renew => exact keeps_some kept_renewTask

/-! ### Turns and runs -/

/-- A child has open what its parent has. -/
theorem kept_spawn {child : Process} (ht : t ∈ c.tasks) : Kept c (c.spawn t child).2 := by
  refine .of_sound rfl rfl fun h => ⟨?_, ?_, h.file_lt, h.nodup_opened, ?_, h.has_pipe⟩
  · refine List.forall_mem_append.mpr ⟨fun u hu => Nat.lt_succ_of_lt (h.task_lt u hu), ?_⟩
    exact List.forall_mem_singleton.mpr (Nat.lt_succ_self _)
  · have hnew : c.nextTask ∉ c.tasks.map Task.id := by
      rintro hmem
      obtain ⟨u, hu, hid⟩ := List.mem_map.mp hmem
      exact absurd hid (Nat.ne_of_lt (h.task_lt u hu))
    rw [spawn, List.map_append]
    exact h.nodup_tasks.append (List.nodup_singleton _) (List.disjoint_singleton.mpr hnew)
  · exact List.forall_mem_append.mpr ⟨h.is_open, List.forall_mem_singleton.mpr (h.is_open t ht)⟩

theorem kept_suspend {p : Process} : Kept c (c.suspend id p) := by
  have hkept : ∀ t : Task, (if t.isRunning then { t with condition := .running p } else t).id = t.id ∧
      (if t.isRunning then { t with condition := .running p } else t).descriptors = t.descriptors := by
    intro t
    split
    · exact ⟨rfl, rfl⟩
    · exact ⟨rfl, rfl⟩
  exact kept_setTask_of_descriptors (fun t => (hkept t).1) fun t => (hkept t).2

/-- A turn keeps the machine, request by request. -/
theorem kept_turn (requests : Nat) (c : Computer) (id : Nat) (p : Process) (happened : Bool) :
    Kept c (turn requests c id p happened).1 := by
  induction requests generalizing c p happened with
  | zero => exact kept_suspend
  | succ n ih =>
    rw [turn]
    split
    · exact .refl c
    next t htask =>
    have ht : t ∈ c.tasks := mem_of_task? htask
    split
    · exact .refl c
    split
    · exact kept_suspend
    cases p with
    | exit status => exact kept_finish
    | fork child next => exact (kept_spawn ht).trans (ih ..)
    | call request next =>
      dsimp only
      split
      · exact kept_suspend
      next a c' hanswer =>
      have hnoted : Kept c' (if t.interrupted then c'.setTask id ({ · with interrupted := false }) else c') := by
        split
        · exact kept_setTask_of_descriptors (fun _ => rfl) fun _ => rfl
        · exact .refl c'
      exact ((keeps_request ht request a c' hanswer).trans hnoted).trans (ih ..)

theorem kept_next (c : Computer) : Kept c c.next.1 := by
  rw [next]
  split
  · exact .refl c
  next t rest htasks =>
  have hrotated : Kept c { c with tasks := rest ++ [t] } := by
    have hperm : (rest ++ [t]).Perm c.tasks := by
      rw [htasks]
      exact List.perm_append_singleton t rest
    exact .of_sound rfl rfl fun h => h.withTasks (hperm.map _).subperm fun u hu => h.is_open u (hperm.mem_iff.mp hu)
  dsimp only
  split
  · exact hrotated
  split
  · exact hrotated
  · exact hrotated.trans (kept_turn ..)

/-- A run keeps the machine, turn by turn, and waiting only lets time pass. -/
theorem kept_runFor (isDone : Computer → Bool) (horizon turns idle : Nat) (c : Computer) :
    Kept c (runFor isDone horizon turns idle c) := by
  induction turns generalizing idle c with
  | zero => exact kept_withClock (Nat.le_max_left _ _)
  | succ turns ih =>
    rw [runFor]
    split
    · exact .refl c
    next hgoes =>
    have hbefore : c.clock < horizon := by
      simp only [Bool.or_eq_true, decide_eq_true_eq, not_or, Nat.not_le] at hgoes
      exact hgoes.2
    split
    · split
      · exact (kept_withClock (by omega)).trans (ih ..)
      · exact kept_withClock (Nat.le_of_lt hbefore)
    · exact (kept_next c).trans (ih ..)

/-- A run ends when what it waits for is the case, or when its time has come. -/
theorem runFor_ends (isDone : Computer → Bool) (horizon turns idle : Nat) (c : Computer) :
    isDone (runFor isDone horizon turns idle c) ∨ horizon ≤ (runFor isDone horizon turns idle c).clock := by
  induction turns generalizing idle c with
  | zero => exact .inr (Nat.le_max_right _ _)
  | succ turns ih =>
    rw [runFor]
    split
    · next hends => simpa using hends
    split
    · split
      · exact ih ..
      · exact .inr (Nat.le_refl _)
    · exact ih ..

theorem kept_run (isDone : Computer → Bool) (horizon : Nat) : Kept c (c.run isDone horizon) := kept_runFor ..

theorem run_ends (c : Computer) (isDone : Computer → Bool) (horizon : Nat) :
    isDone (c.run isDone horizon) ∨ horizon ≤ (c.run isDone horizon).clock := runFor_ends ..

/-- However long a program runs on it, a machine that has been set up for it stays sound. -/
theorem sound_run_boot (files : FileSystem) (nullDevice directory : Nat) (program : Process) (isDone : Computer → Bool)
    (horizon : Nat) : ((boot files nullDevice directory program).run isDone horizon).Sound := by
  refine (kept_run isDone horizon).sound ⟨?_, ?_, ?_, ?_, ?_, ?_⟩
  all_goals simp [boot, firstTask, outputPipe, errorPipe, Object.pipe?]

end

end Computer

/-! ### Programs under supervision -/

section
variable (c : Computer) (deadline : Nat)

/-- The machine when the program has ended or its time is up. -/
def stopped : Computer := c.run (fun c => (c.ending? Computer.firstTask).isSome) deadline

theorem ending_supervise : (supervise c deadline).ending = (stopped c deadline).ending? Computer.firstTask := rfl

theorem elapsed_supervise : (supervise c deadline).elapsed = (stopped c deadline).clock := rfl

/-- A program that is killed has had all the time to its deadline. -/
theorem deadline_le_elapsed (h : (supervise c deadline).ending = none) : deadline ≤ (supervise c deadline).elapsed := by
  rw [ending_supervise] at h
  rw [elapsed_supervise]
  refine (c.run_ends _ deadline).resolve_left fun hdone => ?_
  have hended : ((stopped c deadline).ending? Computer.firstTask).isSome = true := hdone
  rw [h] at hended
  cases hended

theorem programsFrom_supervise : c.files.ProgramsFrom (supervise c deadline).files := by
  have hstopped : Computer.Kept c (stopped c deadline) := Computer.kept_run ..
  rw [supervise]
  refine (hstopped.trans ?_).programs
  refine .trans (.trans ?_ (Computer.kept_run ..)) (Computer.kept_run ..)
  split
  · exact Computer.kept_finish
  · exact .refl _

end

end KernelAudit.Machine
