import KernelAudit.Shell.Arithmetic

/-! Parts of an expression that do not count, as the part behind `0 &&` is one. They are read, but nothing in them
    is done: they assign nothing, and nothing is wrong with them but that they cannot be read. -/

namespace KernelAudit.Shell.Arithmetic

/-- What can be wrong with a part that is only read. -/
def misreadings : List ArithmeticProblem :=
  [.flaw "expecting primary", .flaw "expecting ')'", .flaw "expecting ':'"]

/-- The evaluation assigns nothing, and fails only if it cannot read on. -/
def Silent {α : Type} (act : Eval α) : Prop :=
  ∀ p, match act.run p with
    | .ok (_, p') => p'.assigned = p.assigned
    | .error e => e ∈ misreadings

section
variable {α β : Type}

theorem Silent.pure (a : α) : Silent (pure a : Eval α) := fun _ => rfl

theorem Silent.get : Silent (get : Eval Progress) := fun _ => rfl

theorem silent_advance : Silent advance := fun _ => rfl

theorem Silent.throw {e : ArithmeticProblem} (h : e ∈ misreadings) : Silent (throw e : Eval α) := fun _ => h

theorem Silent.bind {x : Eval α} {f : α → Eval β} (h : Silent x) (hnext : ∀ a, Silent (f a)) : Silent (x >>= f) := by
  intro p
  have hx := h p
  rcases hrun : x.run p with e | ⟨a, p'⟩
  · have hstep : (x >>= f).run p = .error e := by
      rw [StateT.run_bind, hrun]
      rfl
    rw [hrun] at hx
    rw [hstep]
    exact hx
  · have hstep : (x >>= f).run p = (f a).run p' := by
      rw [StateT.run_bind, hrun]
      rfl
    have hf := hnext a p'
    rw [hrun] at hx
    rw [hstep]
    rcases hrun' : (f a).run p' with e | ⟨b, p''⟩
    · rw [hrun'] at hf
      exact hf
    · rw [hrun'] at hf
      exact hf.trans hx

theorem Silent.ite {p : Prop} [Decidable p] {x y : Eval α} (h : Silent x) (h' : Silent y) : Silent (if p then x else y) := by
  split
  · exact h
  · exact h'

end

variable {lookup : String → Option String}

/-- All parts of an expression are silent where they do not count. -/
structure SilentFor (lookup : String → Option String) (fuel : Nat) : Prop where
  primary : Silent (primary lookup fuel false)
  operations : ∀ limit a, Silent (operations lookup fuel limit false a)
  conjunction : Silent (conjunction lookup fuel false)
  disjunction : Silent (disjunction lookup fuel false)
  choice : Silent (choice lookup fuel false)
  assignment : Silent (assignment lookup fuel false)

section
variable {fuel : Nat} (ih : SilentFor lookup fuel)
include ih

theorem silent_primary : Silent (primary lookup (fuel + 1) false) := by
  rw [primary]
  refine .bind .get fun p => ?_
  split
  · exact .bind silent_advance fun _ => .pure _
  · exact .bind silent_advance fun _ => .pure _
  · refine .bind silent_advance fun _ => .bind ih.assignment fun n => .bind .get fun p => ?_
    split
    · exact .throw (by decide)
    · exact .bind silent_advance fun _ => .pure n
  · split
    · exact .bind silent_advance fun _ => .bind ih.primary fun _ => .pure _
    · exact .throw (by decide)
  · exact .throw (by decide)

theorem silent_operations (limit : Nat) (a : Int64) : Silent (operations lookup (fuel + 1) limit false a) := by
  rw [operations]
  refine .bind .get fun p => ?_
  split
  · split
    · exact .pure a
    · refine .ite (.pure a) (.bind silent_advance fun _ => .bind ih.primary fun b => ?_)
      exact .bind (ih.operations _ b) fun b => .bind (.pure b) fun c => ih.operations limit c
  · exact .pure a

theorem silent_conjunction : Silent (conjunction lookup (fuel + 1) false) := by
  rw [conjunction]
  refine .bind ih.primary fun a => .bind (ih.operations 8 a) fun a => .bind .get fun p => ?_
  exact .ite (.pure a) (.bind silent_advance fun _ => .bind ih.conjunction fun _ => .pure _)

theorem silent_disjunction : Silent (disjunction lookup (fuel + 1) false) := by
  rw [disjunction]
  refine .bind ih.conjunction fun a => .bind .get fun p => ?_
  exact .ite (.pure a) (.bind silent_advance fun _ => .bind ih.disjunction fun _ => .pure _)

theorem silent_choice : Silent (choice lookup (fuel + 1) false) := by
  rw [choice]
  refine .bind ih.disjunction fun a => .bind .get fun p => .ite (.pure a) ?_
  refine .bind silent_advance fun _ => .bind ih.assignment fun b => .bind .get fun p => ?_
  dsimp only
  split
  · exact .bind (.throw (by decide)) fun _ => .bind silent_advance fun _ => .bind ih.choice fun c => .pure _
  · exact .bind silent_advance fun _ => .bind ih.choice fun c => .pure _

theorem silent_assignment : Silent (assignment lookup (fuel + 1) false) := by
  rw [assignment]
  refine .bind .get fun start => ?_
  split
  · refine .ite ?_ ih.choice
    exact .bind silent_advance fun _ => .bind silent_advance fun _ => .bind ih.assignment fun b => .pure b
  · exact ih.choice

end

theorem silentFor (lookup : String → Option String) (fuel : Nat) : SilentFor lookup fuel := by
  induction fuel with
  | zero =>
    have hstuck : ∀ {α : Type}, Silent (throw (.flaw "expecting primary") : Eval α) := .throw (by decide)
    refine ⟨?_, fun limit a => ?_, ?_, ?_, ?_, ?_⟩
    · rw [primary]
      exact hstuck
    · rw [operations]
      exact .pure a
    · rw [conjunction]
      exact hstuck
    · rw [disjunction]
      exact hstuck
    · rw [choice]
      exact hstuck
    · rw [assignment]
      exact hstuck
  | succ fuel ih =>
    exact ⟨silent_primary ih, silent_operations ih, silent_conjunction ih, silent_disjunction ih, silent_choice ih,
      silent_assignment ih⟩

/-- A part that does not count has no effect on the variables, and no variable on whether it can be read. -/
theorem silent_of_not_counts (fuel : Nat) : Silent (assignment lookup fuel false) := (silentFor lookup fuel).assignment

end KernelAudit.Shell.Arithmetic
