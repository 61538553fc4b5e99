import KernelAudit.Proofs.CommandLine.Scan

/-! Options before a harness command. The quick look knows the shared options only, so it goes past the value of
    an option of the sort command if that is joined to the name of the option, or looks like an option itself, and
    takes every other one for an argument in its own right. The parser goes on at shared options, and refuses the
    options of the sort command before it, which is a mistake wherever it happens. -/

namespace KernelAudit.CommandLine

open Text (Raw)

/-! ### Computations that end with a mistake -/

/-- The computation ends with a mistake, or with a result of the kind. -/
def MistakenOr {α : Type} (p : α → Prop) : Except UsageError α → Prop
  | .error e => e.isMistake = true
  | .ok a => p a

namespace MistakenOr
variable {α β : Type} {p : α → Prop} {q : β → Prop} {x : Except UsageError α} {f : α → Except UsageError β}

theorem bind (h : MistakenOr p x) (hf : ∀ a, p a → MistakenOr q (f a)) : MistakenOr q (x >>= f) := by
  cases x with
  | error e => exact h
  | ok a => exact hf a h

theorem mono {q : α → Prop} (h : MistakenOr p x) (hmono : ∀ a, p a → q a) : MistakenOr q x := by
  cases x with
  | error e => exact h
  | ok a => exact hmono a h

theorem ite_throw {c : Prop} [Decidable c] {e : UsageError} {y : Except UsageError β} (he : e.isMistake = true)
    (hy : MistakenOr q y) : MistakenOr q (if c then throw e >>= f else y) := by
  split
  · exact he
  · exact hy

/-- Behind a mistake nothing else comes. -/
theorem bind_of_none (h : MistakenOr (fun _ => False) x) : MistakenOr q (x >>= f) :=
  h.bind fun _ hnone => hnone.elim

theorem exists_error (h : MistakenOr (fun _ => False) x) : ∃ e, x = .error e ∧ e.isMistake = true := by
  cases x with
  | error e => exact ⟨e, rfl, h⟩
  | ok a => exact h.elim

end MistakenOr

theorem mistakenOr_check (kind : ValueKind) (value : Raw) : MistakenOr (fun _ => True) (kind.check value) := by
  unfold ValueKind.check
  split
  · split <;> trivial
  · trivial
  · split <;> trivial
  · trivial
  · trivial
  · trivial
  · split <;> trivial

theorem mistakenOr_forM_check (kind : ValueKind) (values : List Raw) :
    MistakenOr (fun _ => True) (values.forM kind.check) := by
  induction values with
  | nil => trivial
  | cons value rest ih => exact (mistakenOr_check kind value).bind fun _ _ => ih

variable {l l' : Level} {arg : Raw} {rest more : List Raw}

theorem mistakenOr_settle : MistakenOr (Settles l) l.settle := by
  -- What a success comes to is known, so only the errors are looked at.
  suffices h : MistakenOr (fun _ => True) l.settle by
    cases hl : l.settle with
    | error e => rwa [hl] at h
    | ok l' => exact settles_of_settle hl
  unfold Level.settle
  split
  · trivial
  · rfl
  · exact .ite_throw rfl ((mistakenOr_check _ _).bind fun _ _ => trivial)
  · exact (mistakenOr_check _ _).bind fun _ _ => trivial
  · exact (mistakenOr_forM_check _ _).bind fun _ _ => trivial

/-- While an option waits for its value nothing can be settled. -/
theorem mistakenOr_settle_of_awaits {p : Level → Prop} (h : l.awaits = true) : MistakenOr p l.settle := by
  cases hl : l.settle with
  | error e =>
    have hsettle : MistakenOr (Settles l) l.settle := mistakenOr_settle
    rwa [hl] at hsettle
  | ok l' => rw [(settles_of_settle hl).before] at h; cases h

/-! ### Options before the command -/

/-- An option as it is given on a command line: a flag by its name or by its letter, or an option with a value,
    which is joined to its name or stands behind it. -/
inductive GivenOption where
  | long (f : Flag)
  | short (letter : Char)
  | joined (o : ValueOption) (value : String)
  | apart (o : ValueOption) (value : String)

namespace GivenOption

def arguments : GivenOption → List Raw
  | .long f => [.ofString ("--" ++ f.name)]
  | .short letter => [.ofString (String.ofList ['-', letter])]
  | .joined o value => [.ofString ("--" ++ o.name ++ "=" ++ value)]
  | .apart o value => [.ofString ("--" ++ o.name), .ofString value]

/-- The option is one of those that the sort command has, of its own or shared. -/
def Declared : GivenOption → Prop
  | .long f => f ∈ globalFlags
  | .short letter => ∃ f ∈ globalFlags, f.short = some letter
  | .joined o _ | .apart o _ => o ∈ sortOptions ++ globalOptions

/-- The option is one that only the sort command has. -/
def OfSort : GivenOption → Prop
  | .long _ | .short _ => False
  | .joined o _ | .apart o _ => o ∈ sortOptions

end GivenOption

/-- Looks like an option without a value behind it. -/
def LooksComplete (s : String) : Prop :=
  s.toList.head? = some '-' ∧ s ≠ "--" ∧ ∀ o ∈ globalOptions, s ≠ "--" ++ o.name

instance : DecidablePred LooksComplete := fun _ => inferInstanceAs (Decidable (_ ∧ _ ∧ _))

/-- The quick look takes the value of the option for an argument in its own right. -/
def GivenOption.Exposes : GivenOption → Prop
  | .apart o value => o ∈ sortOptions ∧ ¬LooksComplete value
  | _ => False

/-! ### What the program knows of the declared options -/

theorem name_of_mem_options : ∀ o ∈ sortOptions ++ globalOptions, o.name.toList ≠ [] ∧ '=' ∉ o.name.toList := by
  decide

theorem find?_of_mem_globalOptions : ∀ o ∈ globalOptions,
    topGrammar.options.find? (·.name = o.name) = some o := by
  decide

theorem find?_of_mem_sortOptions : ∀ o ∈ sortOptions,
    topGrammar.options.find? (·.name = o.name) = none ∧ topGrammar.flags.find? (·.name = o.name) = none ∧
      topGrammar.options.any (·.name.toList = o.name.toList) = false := by
  decide

theorem name_of_mem_globalFlags : ∀ f ∈ globalFlags, f.name.toList ≠ [] ∧ '=' ∉ f.name.toList := by
  decide

theorem find?_of_mem_globalFlags : ∀ f ∈ globalFlags,
    topGrammar.options.find? (·.name = f.name) = none ∧ topGrammar.flags.find? (·.name = f.name) = some f ∧
      topGrammar.options.any (·.name.toList = f.name.toList) = false := by
  decide

theorem ne_helpFlag_of_mem_globalFlags : ∀ f ∈ globalFlags, f ≠ helpFlag := by
  decide

theorem letter_of_mem_globalFlags : ∀ f ∈ globalFlags, f.short ≠ some '-' ∧
    (f.short ≠ none → topGrammar.flags.find? (·.short = f.short) = some f) := by
  decide

/-! ### The quick look at options -/

theorem ofString_dashes_append (name : String) : Raw.ofString ("--" ++ name) = ⟨'-' :: '-' :: name.toList, []⟩ := by
  simp [Raw.ofString]

theorem ofString_nameValue (name value : String) :
    Raw.ofString ("--" ++ name ++ "=" ++ value) = ⟨'-' :: '-' :: (name.toList ++ '=' :: value.toList), []⟩ := by
  simp [Raw.ofString]

theorem passedOver_dash : PassedOver ⟨['-'], []⟩ := by
  intro rest
  rw [callsHarness.eq_def]
  simp [Raw.text?]

theorem passedOver_of_looksComplete {s : String} (h : LooksComplete s) : PassedOver (.ofString s) := by
  obtain ⟨hdash, hdashes, hoptions⟩ := h
  rcases hs : s.toList with _ | ⟨c, _ | ⟨c', name⟩⟩
  · rw [hs] at hdash
    cases hdash
  all_goals
    rw [hs] at hdash
    obtain rfl := Option.some.inj hdash
    rw [Raw.ofString, hs]
  · exact passedOver_dash
  · by_cases hc : c' = '-'
    · subst hc
      have hself : s = "--" ++ String.ofList name := String.toList_injective (by simp [hs])
      refine passedOver_name (fun hname => hdashes ?_) (List.any_eq_false.mpr fun o ho hname => hoptions o ho ?_)
      · rw [hself, hname]
        rfl
      · rw [hself, ← of_decide_eq_true hname, String.ofList_toList]
    · exact passedOver_letters hc

variable {g : GivenOption} {o : ValueOption} {value : String}

/-- The quick look goes past the name of an option of the sort command, and knows nothing of its value. -/
theorem passedOver_sortOption (ho : o ∈ sortOptions) : PassedOver (.ofString ("--" ++ o.name)) := by
  rw [ofString_dashes_append]
  obtain ⟨-, -, hnone⟩ := find?_of_mem_sortOptions o ho
  exact passedOver_name (name_of_mem_options o (List.mem_append_left _ ho)).1 hnone

theorem callsHarness_sharedOption (ho : o ∈ globalOptions) (rest : List Raw) :
    callsHarness (.ofString ("--" ++ o.name) :: rest) = callsHarness rest.tail := by
  obtain ⟨hne, heq⟩ := name_of_mem_options o (List.mem_append_right _ ho)
  rw [ofString_dashes_append]
  exact callsHarness_option hne heq ho rfl rest

theorem callsHarness_command {name : CommandName} (hname : name ∈ harnessCommands) (rest : List Raw) :
    callsHarness (.ofString name.name :: rest) = true := by
  have hword : name.name.toList.head? ≠ some '-' := by
    cases name <;> decide
  rw [callsHarness_word hword]
  exact List.any_eq_true.mpr ⟨name, hname, decide_eq_true rfl⟩

/-- The quick look goes past a declared option, unless its value is exposed. -/
theorem callsHarness_arguments (hg : g.Declared) (hexposes : ¬g.Exposes) (more : List Raw) :
    callsHarness (g.arguments ++ more) = callsHarness more := by
  cases g with
  | long f =>
    obtain ⟨-, -, hnone⟩ := find?_of_mem_globalFlags f hg
    rw [GivenOption.arguments, ofString_dashes_append]
    exact passedOver_name (name_of_mem_globalFlags f hg).1 hnone more
  | short letter =>
    obtain ⟨f, hf, hletter⟩ := hg
    rw [GivenOption.arguments, Raw.ofString, String.toList_ofList]
    exact passedOver_letters (fun h => (letter_of_mem_globalFlags f hf).1 (by rw [hletter, h])) more
  | joined o value =>
    rw [GivenOption.arguments, ofString_nameValue]
    exact passedOver_nameValue more
  | apart o value =>
    rw [GivenOption.arguments, List.cons_append]
    rcases List.mem_append.mp hg with ho | ho
    · have hcomplete : LooksComplete value := Decidable.byContradiction fun h => hexposes ⟨ho, h⟩
      rw [passedOver_sortOption ho]
      exact passedOver_of_looksComplete hcomplete more
    · rw [callsHarness_sharedOption ho]
      rfl

theorem callsHarness_flatMap_arguments {before : List GivenOption} (hdeclared : ∀ g ∈ before, g.Declared)
    (hexposes : ∀ g ∈ before, ¬g.Exposes) (more : List Raw) :
    callsHarness (before.flatMap GivenOption.arguments ++ more) = callsHarness more := by
  induction before with
  | nil => rfl
  | cons g before ih =>
    obtain ⟨hg, hdeclared⟩ := List.forall_mem_cons.mp hdeclared
    obtain ⟨hgexposes, hexposes⟩ := List.forall_mem_cons.mp hexposes
    rw [List.flatMap_cons, List.append_assoc, callsHarness_arguments hg hgexposes, ih hdeclared hexposes]

/-! ### The parser at one argument -/

/-- Where there are no more options, every argument is one too many. -/
theorem mistakenOr_scan_of_trailing {p : Level × Option (String × List Raw) → Prop} (ht : l.trailing = true) :
    MistakenOr p (l.scan topGrammar (arg :: rest)) := by
  rw [Level.scan, if_pos ht]
  have hpositional : MistakenOr (fun _ => False) (l.positional topGrammar arg) := by
    unfold Level.positional
    split
    · split <;> rfl
    · next h => exact absurd rfl h
  exact hpositional.bind_of_none

theorem scan_dash {chars : List Char} (ht : l.trailing = false) :
    l.scan topGrammar (⟨'-' :: chars, []⟩ :: rest) =
      (l.take topGrammar ⟨'-' :: chars, []⟩ >>= fun l => l.scan topGrammar rest) := by
  have hnone : topGrammar.commands.find? (Raw.is ⟨'-' :: chars, []⟩) = none := by
    refine List.find?_eq_none.mpr fun word hword his => head_ne_dash_of_mem_commands word hword ?_
    have hchars : '-' :: chars = word.toList := by simpa [Raw.is] using his
    rw [← hchars]
    rfl
  rw [Level.scan, ht, if_neg Bool.false_ne_true, hnone, ite_self]

theorem scan_value (ht : l.trailing = false) (hl : l.awaits = true) :
    l.scan topGrammar (arg :: rest) = (l.take topGrammar arg >>= fun l => l.scan topGrammar rest) := by
  rw [Level.scan, ht, if_neg Bool.false_ne_true, if_pos hl]

theorem shape_name {name : List Char} (hne : name ≠ []) (heq : '=' ∉ name) :
    shape ⟨'-' :: '-' :: name, []⟩ = .long (some (String.ofList name)) none := by
  have hdrop : name.dropWhile (· ≠ '=') = [] := by
    rw [List.dropWhile_eq_nil_iff]
    exact fun c hc => decide_eq_true fun h => heq (h ▸ hc)
  simp only [shape, hdrop]
  simp [hne]

theorem shape_nameValue {name value : List Char} (heq : '=' ∉ name) :
    shape ⟨'-' :: '-' :: (name ++ '=' :: value), []⟩ = .long (some (String.ofList name)) (some ⟨value, []⟩) := by
  have hall : ∀ c ∈ name, decide (c ≠ '=') = true := fun c hc => decide_eq_true fun h => heq (h ▸ hc)
  simp only [shape, List.dropWhile_append_of_pos hall, List.takeWhile_append_of_pos hall]
  simp

theorem shape_letter {letter : Char} (hne : letter ≠ '-') :
    shape ⟨['-', letter], []⟩ = .short [letter] false := by
  unfold shape
  split
  · next h => exact absurd (List.cons.inj (List.cons.inj h).2).1 hne
  · next h =>
    obtain ⟨-, rfl⟩ := List.cons.inj h
    rfl
  · next h => exact absurd rfl (h _)

/-! ### Mistakes of the parser -/

theorem mistakenOr_setFlag {f : Flag} (hf : f ≠ helpFlag) : MistakenOr (fun _ => True) (l.setFlag f) := by
  unfold Level.setFlag
  refine mistakenOr_settle.bind fun l' _ => ?_
  rw [if_neg hf]
  exact .ite_throw rfl trivial

theorem mistakenOr_setFlag_of_awaits {p : Level → Prop} {f : Flag} (hl : l.awaits = true) :
    MistakenOr p (l.setFlag f) :=
  (mistakenOr_settle_of_awaits hl).bind_of_none

theorem mistakenOr_long_of_awaits {p : Level → Prop} {name : String} {attached : Option Raw} (hl : l.awaits = true) :
    MistakenOr p (l.long topGrammar arg name attached) := by
  unfold Level.long
  split
  · exact (mistakenOr_settle_of_awaits hl).bind_of_none
  · split
    · rfl
    · exact mistakenOr_setFlag_of_awaits hl
  · rfl

theorem mistakenOr_short_of_awaits {p : Level → Prop} {letters : List Char} {stray : Bool}
    (hsome : letters ≠ [] ∨ stray = true) (hl : l.awaits = true) :
    MistakenOr p (l.short topGrammar arg letters stray) := by
  have htakes : l.takesHyphens topGrammar = false := rfl
  unfold Level.short
  simp only [htakes, Bool.false_and, Bool.false_eq_true, if_false]
  rcases letters with _ | ⟨letter, more⟩
  · rw [hsome.resolve_left (· rfl)]
    rfl
  · rw [List.foldlM_cons]
    refine .bind_of_none (.bind_of_none ?_)
    split
    · exact mistakenOr_setFlag_of_awaits hl
    · rfl

/-- Whatever stands behind an option that waits for its value is that value, or ends the options, or is a mistake. -/
theorem mistakenOr_take_of_awaits (hl : l.awaits = true) (arg : Raw) :
    MistakenOr (fun _ => True) (l.take topGrammar arg) := by
  have hspelled := spelled arg
  unfold Level.take
  generalize shape arg = s at hspelled
  cases hspelled with
  | word =>
    obtain ⟨o, hpending⟩ : ∃ o, l.pending = some (.option o none) := by
      unfold Level.awaits at hl
      split at hl
      · exact ⟨_, ‹_›⟩
      · cases hl
    simp only [Level.word, hpending]
    trivial
  | dashes => trivial
  | name => exact mistakenOr_long_of_awaits hl
  | nameValue => exact mistakenOr_long_of_awaits hl
  | letters => exact mistakenOr_short_of_awaits (Or.inl (List.cons_ne_nil _ _)) hl
  | unreadableName => rfl
  | unreadableLetters => exact mistakenOr_short_of_awaits (Or.inr rfl) hl

/-! ### The parser at options -/

theorem long_sharedOption {attached : Option Raw} (ho : o ∈ globalOptions) :
    l.long topGrammar arg o.name attached =
      (l.settle >>= fun l =>
        let l := { l with pending := some (.option o attached) }
        if attached.isSome then l.settle else return l) := by
  rw [Level.long, find?_of_mem_globalOptions o ho]

theorem long_sortOption {attached : Option Raw} (ho : o ∈ sortOptions) :
    l.long topGrammar arg o.name attached = .error .unknownArgument := by
  obtain ⟨hoption, hflag, -⟩ := find?_of_mem_sortOptions o ho
  rw [Level.long, hoption, hflag]
  rfl

theorem take_name {name : String} (hne : name.toList ≠ []) (heq : '=' ∉ name.toList) :
    l.take topGrammar (.ofString ("--" ++ name)) = l.long topGrammar (.ofString ("--" ++ name)) name none := by
  rw [ofString_dashes_append, Level.take, shape_name hne heq, String.ofList_toList]

theorem take_nameValue {name : String} (heq : '=' ∉ name.toList) :
    l.take topGrammar (.ofString ("--" ++ name ++ "=" ++ value)) =
      l.long topGrammar (.ofString ("--" ++ name ++ "=" ++ value)) name (some (.ofString value)) := by
  rw [ofString_nameValue, Level.take, shape_nameValue heq, String.ofList_toList]
  rfl

theorem mistakenOr_take_letter {letter : Char} {f : Flag} (hf : f ∈ globalFlags) (hletter : f.short = some letter) :
    MistakenOr (fun _ => True) (l.take topGrammar ⟨['-', letter], []⟩) := by
  have htakes : l.takesHyphens topGrammar = false := rfl
  obtain ⟨hdash, hfind⟩ := letter_of_mem_globalFlags f hf
  rw [hletter] at hdash hfind
  have hfind := hfind (Option.some_ne_none letter)
  rw [Level.take, shape_letter fun h => hdash (congrArg some h)]
  simp only [Level.short, htakes, Bool.false_and, Bool.false_eq_true, if_false, List.foldlM_cons, List.foldlM_nil,
    hfind, bind_pure]
  exact mistakenOr_setFlag (ne_helpFlag_of_mem_globalFlags f hf)

section
variable {p : Level × Option (String × List Raw) → Prop}

theorem mistakenOr_scan_dash {q : Level → Prop} {chars : List Char} (harg : arg = ⟨'-' :: chars, []⟩)
    (htake : l.trailing = false → MistakenOr q (l.take topGrammar arg))
    (hmore : ∀ l' : Level, q l' → MistakenOr p (l'.scan topGrammar more)) :
    MistakenOr p (l.scan topGrammar (arg :: more)) := by
  cases ht : l.trailing with
  | true => exact mistakenOr_scan_of_trailing ht
  | false =>
    have htake := htake ht
    subst harg
    rw [scan_dash ht]
    exact htake.bind hmore

/-- At shared options the parser goes on, or ends with a mistake. -/
theorem mistakenOr_scan_arguments (hg : g.Declared) (hsort : ¬g.OfSort)
    (hmore : ∀ l' : Level, MistakenOr p (l'.scan topGrammar more)) :
    MistakenOr p (l.scan topGrammar (g.arguments ++ more)) := by
  cases g with
  | long f =>
    obtain ⟨hoption, hflag, -⟩ := find?_of_mem_globalFlags f hg
    obtain ⟨hne, heq⟩ := name_of_mem_globalFlags f hg
    refine mistakenOr_scan_dash (q := fun _ => True) (ofString_dashes_append _) (fun _ => ?_) fun l' _ => hmore l'
    rw [take_name hne heq, Level.long, hoption, hflag]
    exact mistakenOr_setFlag (ne_helpFlag_of_mem_globalFlags f hg)
  | short letter =>
    obtain ⟨f, hf, hletter⟩ := hg
    have harg : Raw.ofString (String.ofList ['-', letter]) = ⟨['-', letter], []⟩ := by
      rw [Raw.ofString, String.toList_ofList]
    refine mistakenOr_scan_dash (q := fun _ => True) harg (fun _ => ?_) fun l' _ => hmore l'
    rw [harg]
    exact mistakenOr_take_letter hf hletter
  | joined o value =>
    have ho : o ∈ globalOptions := (List.mem_append.mp hg).resolve_left hsort
    refine mistakenOr_scan_dash (q := fun _ => True) (ofString_nameValue _ _) (fun _ => ?_) fun l' _ => hmore l'
    rw [take_nameValue (name_of_mem_options o hg).2, long_sharedOption ho]
    refine mistakenOr_settle.bind fun l' _ => ?_
    simp only [Option.isSome_some, if_true]
    exact mistakenOr_settle.mono fun _ _ => trivial
  | apart o value =>
    have ho : o ∈ globalOptions := (List.mem_append.mp hg).resolve_left hsort
    obtain ⟨hne, heq⟩ := name_of_mem_options o hg
    refine mistakenOr_scan_dash (q := fun l' => l'.trailing = false ∧ l'.awaits = true) (ofString_dashes_append _)
      (fun ht => ?_) fun l' hl' => ?_
    · rw [take_name hne heq, long_sharedOption ho]
      exact mistakenOr_settle.bind fun l' hl' => ⟨hl'.trailing.trans ht, rfl⟩
    · -- The option waits for the value, so it is one even where it spells a command.
      obtain ⟨ht, hl'⟩ := hl'
      have hvalue : l'.scan topGrammar (.ofString value :: more) = _ := scan_value ht hl'
      exact hvalue ▸ (mistakenOr_take_of_awaits hl' _).bind fun l' _ => hmore l'

/-- An option of the sort command is a mistake before it. -/
theorem mistakenOr_scan_sortOption (hsort : g.OfSort) : MistakenOr p (l.scan topGrammar (g.arguments ++ more)) := by
  cases g with
  | long | short => exact hsort.elim
  | joined o value =>
    have hname := name_of_mem_options o (List.mem_append_left _ hsort)
    refine mistakenOr_scan_dash (q := fun _ => False) (ofString_nameValue _ _) (fun _ => ?_) fun _ => False.elim
    rw [take_nameValue hname.2, long_sortOption hsort]
    rfl
  | apart o value =>
    have hname := name_of_mem_options o (List.mem_append_left _ hsort)
    refine mistakenOr_scan_dash (q := fun _ => False) (ofString_dashes_append _) (fun _ => ?_) fun _ => False.elim
    rw [take_name hname.1 hname.2, long_sortOption hsort]
    rfl

theorem mistakenOr_scan_of_sortOption {before : List GivenOption}
    (hdeclared : ∀ g ∈ before, g.Declared) (hsort : ∃ g ∈ before, g.OfSort) :
    MistakenOr p (l.scan topGrammar (before.flatMap GivenOption.arguments ++ more)) := by
  induction before generalizing l with
  | nil =>
    obtain ⟨_, hmem, -⟩ := hsort
    cases hmem
  | cons g before ih =>
    obtain ⟨hg, hdeclared⟩ := List.forall_mem_cons.mp hdeclared
    rw [List.flatMap_cons, List.append_assoc]
    -- The first option of the sort command is the mistake, if there has been none before.
    by_cases hgsort : g.OfSort
    · exact mistakenOr_scan_sortOption hgsort
    · have hlater : ∃ g ∈ before, g.OfSort := by
        obtain ⟨g', hmem, hg'⟩ := hsort
        rcases List.mem_cons.mp hmem with rfl | hmem
        · exact absurd hg' hgsort
        · exact ⟨g', hmem, hg'⟩
      exact mistakenOr_scan_arguments hg hgsort fun l' => ih hdeclared hlater

end

theorem mistakenOr_parse_of_sortOption {env : Environment} {before : List GivenOption}
    (hdeclared : ∀ g ∈ before, g.Declared) (hsort : ∃ g ∈ before, g.OfSort) :
    MistakenOr (fun _ => False) (parse env (before.flatMap GivenOption.arguments ++ more)) :=
  (mistakenOr_scan_of_sortOption hdeclared hsort).bind_of_none

end KernelAudit.CommandLine
