import KernelAudit.Check.Run
import Mathlib.Order.Bounds.Basic

/-! A machine that keeps a log beside its own state. A step may be written down when it is over, and what is
    written of it is left open: a computation whose steps are written down does to the machine what it did
    before, and the steps it came through are the same whatever the notes about them are (`Notes`). So each
    computation is gone through once, and every log of it is read off its steps. -/

namespace KernelAudit

variable {m : Type → Type} [Monad m] {α τ : Type}

/-- A machine on which no time passes and nothing is random. -/
def Host.idle : Host m := ⟨pure none, pure 0, pure 0, pure (.replicate 8 0)⟩

/-- The machine of a host, with a log that the host does not touch. -/
def Host.logged (host : Host m) : Host (StateT (List τ) m) where
  hostname := StateT.lift host.hostname
  timestamp := StateT.lift host.timestamp
  clock := StateT.lift host.clock
  entropy := StateT.lift host.entropy

def note (entry : τ) : StateT (List τ) m Unit := modify (· ++ [entry])

/-- A step that is written down when it is over: `notes` is what is written of its value. -/
def noted (notes : α → List τ) (act : m α) : StateT (List τ) m α := do
  let a ← StateT.lift act
  modify (· ++ notes a)
  pure a

/-! ### What a log records -/

theorem run_note (entry : τ) (log : List τ) :
    (note entry : StateT (List τ) m Unit).run log = pure ((), log ++ [entry]) := rfl

theorem run_forM_note [LawfulMonad m] (entries log : List τ) :
    (forM entries note : StateT (List τ) m Unit).run log = pure ((), log ++ entries) := by
  induction entries generalizing log with
  | nil => simp
  | cons entry rest ih =>
    rw [List.forM_cons, StateT.run_bind, run_note, pure_bind, ih, List.append_assoc, List.singleton_append]

theorem run_noted [LawfulMonad m] (notes : α → List τ) (act : m α) (log : List τ) :
    (noted notes act).run log = (fun a => (a, log ++ notes a)) <$> act := by
  simp [noted]

/-- Where nothing is written, the log is left alone. -/
theorem noted_nothing [LawfulMonad m] {notes : α → List τ} {a : α} (h : notes a = []) :
    noted notes (pure a : m α) = pure a := by
  refine StateT.ext fun log => ?_
  rw [run_noted, map_pure, h, List.append_nil]
  rfl

/-- Where the last entry is the only bad one, it is the first. -/
theorem isLeast_append_singleton {α : Type} {bad : α → Prop} {earlier : List α} {last : α}
    (h : ∀ a ∈ earlier, ¬bad a) (hlast : bad last) :
    IsLeast {i | ∃ hi : i < (earlier ++ [last]).length, bad (earlier ++ [last])[i]} earlier.length := by
  refine ⟨⟨by simp, ?_⟩, ?_⟩
  · rwa [List.getElem_concat_length rfl]
  · rintro i ⟨hi, hbad⟩
    refine Nat.le_of_not_lt fun hlt => ?_
    rw [List.getElem_append_left hlt] at hbad
    exact h _ (List.getElem_mem _) hbad

/-! ### Computations with a log -/

section
variable {σ τ ι κ α β ε : Type}

/-- With a log, `x` does what `y` does, and what it adds to the log suits its value. -/
structure Logs (suits : α → List τ → Prop) (x : StateT (List τ) (StateM σ) α) (y : StateM σ α) : Prop where
  run : ∀ log s, ∃ added, (x.run log).run s = (((y.run s).1, log ++ added), (y.run s).2) ∧ suits (y.run s).1 added

/-- With a log, `x` does what `y` does, in steps that suit its value, and adds to the log the notes about them. -/
structure Notes (notes : ι → List τ) (suits : α → List ι → Prop) (x : StateT (List τ) (StateM σ) α)
    (y : StateM σ α) : Prop where
  run : ∀ log s, ∃ steps, (x.run log).run s = (((y.run s).1, log ++ steps.flatMap notes), (y.run s).2) ∧
    suits (y.run s).1 steps

namespace Notes
variable {notes : ι → List τ} {suits : α → List ι → Prop} {suits' : β → List ι → Prop}
  {x : StateT (List τ) (StateM σ) α} {y : StateM σ α}

theorem lift (h : ∀ s, suits (y.run s).1 []) : Notes notes suits (StateT.lift y) y := by
  refine ⟨fun log s => ⟨[], ?_, h s⟩⟩
  rw [List.flatMap_nil, List.append_nil]
  rfl

theorem of_pure {a : α} (h : suits a []) : Notes notes suits (pure a : StateT (List τ) (StateM σ) α) (pure a) :=
  lift (y := pure a) fun _ => h

theorem noted {step : α → ι} {y : StateM σ α} (h : ∀ a, suits a [step a]) :
    Notes notes suits (noted (fun a => notes (step a)) y) y := by
  refine ⟨fun log s => ⟨[step (y.run s).1], ?_, h _⟩⟩
  rw [List.flatMap_singleton]
  rfl

theorem mono {suits₂ : α → List ι → Prop} (h : Notes notes suits x y) (hmono : ∀ a steps, suits a steps → suits₂ a steps) :
    Notes notes suits₂ x y := by
  refine ⟨fun log s => ?_⟩
  obtain ⟨steps, hrun, hsuits⟩ := h.run log s
  exact ⟨steps, hrun, hmono _ _ hsuits⟩

theorem bind {f : α → StateT (List τ) (StateM σ) β} {g : α → StateM σ β} (h : Notes notes suits x y)
    (hnext : ∀ a steps, suits a steps → Notes notes (fun b more => suits' b (steps ++ more)) (f a) (g a)) :
    Notes notes suits' (x >>= f) (y >>= g) := by
  refine ⟨fun log s => ?_⟩
  obtain ⟨steps, hrun, hsuits⟩ := h.run log s
  obtain ⟨more, hrun', hsuits'⟩ := (hnext _ steps hsuits).run (log ++ steps.flatMap notes) (y.run s).2
  rw [StateT.run_bind, StateT.run_bind, StateT.run_bind, hrun]
  refine ⟨steps ++ more, ?_, hsuits'⟩
  rw [List.flatMap_append, ← List.append_assoc]
  exact hrun'

theorem map (h : Notes notes suits x y) {f : α → β} (hf : ∀ a steps, suits a steps → suits' (f a) steps) :
    Notes notes suits' (f <$> x) (f <$> y) := by
  refine ⟨fun log s => ?_⟩
  obtain ⟨steps, hrun, hsuits⟩ := h.run log s
  refine ⟨steps, ?_, hf _ _ hsuits⟩
  rw [StateT.run_map, StateT.run_map, StateT.run_map, hrun]
  rfl

/-- What comes behind an error is no step any more. -/
theorem bind_run {suits : Except ε α → List ι → Prop} {suits' : Except ε β → List ι → Prop}
    {x : ExceptT ε (StateT (List τ) (StateM σ)) α} {y : ExceptT ε (StateM σ) α}
    {f : α → ExceptT ε (StateT (List τ) (StateM σ)) β} {g : α → ExceptT ε (StateM σ) β}
    (h : Notes notes suits x.run y.run) (herror : ∀ e steps, suits (.error e) steps → suits' (.error e) steps)
    (hok : ∀ a steps, suits (.ok a) steps → Notes notes (fun r more => suits' r (steps ++ more)) (f a).run (g a).run) :
    Notes notes suits' (x >>= f).run (y >>= g).run := by
  rw [ExceptT.run_bind, ExceptT.run_bind]
  refine h.bind fun outcome steps hsuits => ?_
  cases outcome with
  | ok a => exact hok a steps hsuits
  | error e => exact of_pure ((List.append_nil steps).symm ▸ herror e steps hsuits)

theorem adapt {ε' : Type} {suits : Except ε α → List ι → Prop} {x : ExceptT ε (StateT (List τ) (StateM σ)) α}
    {y : ExceptT ε (StateM σ) α} (h : Notes notes suits x.run y.run) (f : ε → ε') :
    Notes notes (fun r steps => ∃ outcome, r = Except.mapError f outcome ∧ suits outcome steps) (ExceptT.adapt f x).run
      (ExceptT.adapt f y).run :=
  h.map fun outcome _ hsuits => ⟨outcome, rfl, hsuits⟩

/-- Steps that are themselves made up of steps of another kind. -/
theorem through {parts : κ → List ι} {suits : α → List κ → Prop} {suits' : α → List ι → Prop}
    (h : Notes (fun step => (parts step).flatMap notes) suits x y)
    (hparts : ∀ a steps, suits a steps → suits' a (steps.flatMap parts)) : Notes notes suits' x y := by
  refine ⟨fun log s => ?_⟩
  obtain ⟨steps, hrun, hsuits⟩ := h.run log s
  refine ⟨steps.flatMap parts, ?_, hparts _ _ hsuits⟩
  rw [hrun, List.flatMap_assoc]

theorem logs {suits' : α → List τ → Prop} (h : Notes notes suits x y)
    (hadded : ∀ a steps, suits a steps → suits' a (steps.flatMap notes)) : Logs suits' x y := by
  refine ⟨fun log s => ?_⟩
  obtain ⟨steps, hrun, hsuits⟩ := h.run log s
  exact ⟨steps.flatMap notes, hrun, hadded _ _ hsuits⟩

/-- If `x` comes out the same where nothing is written at all, it has come through steps that nothing is written
    about. -/
theorem exists_unwritten {suits₂ : α → List ι → Prop} (h : Notes notes suits x y)
    (hsilent : Notes (fun _ => []) suits₂ x y) (s : σ) :
    ∃ steps, suits (y.run s).1 steps ∧ ∀ step ∈ steps, notes step = [] := by
  obtain ⟨steps, hrun, hsuits⟩ := h.run [] s
  obtain ⟨silent, hrun', -⟩ := hsilent.run [] s
  have hnothing : steps.flatMap notes = silent.flatMap fun _ => [] := by
    simpa using congrArg (fun r => r.1.2) (hrun.symm.trans hrun')
  refine ⟨steps, hsuits, List.flatMap_eq_nil_iff.mp (hnothing.trans ?_)⟩
  exact List.flatMap_eq_nil_iff.mpr fun _ _ => rfl

end Notes

end

end KernelAudit
