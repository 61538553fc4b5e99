import KernelAudit.CommandLine.Parser
import KernelAudit.Proofs.Except
import Mathlib.Data.List.TakeWhile

/-! The quick look for a harness command against the parser. The parser keeps what came before, so one
    argument does one of four things (`Taken`): it is the value that an option waits for, it ends the
    options, it is an option that waits for a value, or it is complete in itself. The quick look knows
    these by their spelling alone, and it skips an argument exactly when the parser waits for one. -/

namespace KernelAudit.CommandLine

open Text (Raw)

/-! ### How arguments are spelled -/

/-- What is known of the spelling of an argument from its shape. -/
inductive Spelled : Raw → Shape → Prop
  | word (arg : Raw) : Spelled arg .word
  | dashes : Spelled ⟨['-', '-'], []⟩ .dashes
  | name {name : List Char} (hne : name ≠ []) (heq : '=' ∉ name) :
      Spelled ⟨'-' :: '-' :: name, []⟩ (.long (some (String.ofList name)) none)
  | nameValue (name value : List Char) (stray : List UInt8) :
      Spelled ⟨'-' :: '-' :: (name ++ '=' :: value), stray⟩
        (.long (some (String.ofList name)) (some ⟨value, stray⟩))
  | letters {letter : Char} {more : List Char} (hne : letter ≠ '-') :
      Spelled ⟨'-' :: letter :: more, []⟩ (.short (letter :: more) false)
  | unreadableName (arg : Raw) : Spelled arg (.long none none)
  | unreadableLetters (arg : Raw) (letters : List Char) : Spelled arg (.short letters true)

theorem spelled (arg : Raw) : Spelled arg (shape arg) := by
  obtain ⟨chars, stray⟩ := arg
  simp only [shape]
  split
  · next rest =>
    have hsplit := List.takeWhile_append_dropWhile (p := (· ≠ '=')) (l := rest)
    have hname : '=' ∉ rest.takeWhile (· ≠ '=') := fun hmem => by
      simpa using List.mem_takeWhile_imp hmem
    split
    · next hdashes =>
      rw [Bool.and_eq_true, List.isEmpty_iff, Bool.not_not, List.isEmpty_iff] at hdashes
      obtain ⟨rfl, rfl⟩ := hdashes
      exact .dashes
    · next hdashes =>
      split
      · next c value hdrop =>
        have hc : c = '=' := by
          have := List.head?_dropWhile_not (· ≠ '=') rest
          rw [hdrop] at this
          simpa using this
        rw [hdrop, hc] at hsplit
        have h := Spelled.nameValue (rest.takeWhile (· ≠ '=')) value stray
        rwa [hsplit] at h
      · next hdrop =>
        rw [hdrop, List.append_nil] at hsplit
        cases stray with
        | nil =>
          refine .name (fun hrest => hdashes ?_) (hsplit ▸ hname)
          rw [hrest]
          rfl
        | cons b more => exact .unreadableName _
  · next rest hrest =>
    split
    · exact .word _
    · next hne =>
      cases stray with
      | nil =>
        rcases rest with _ | ⟨letter, more⟩
        · exact absurd rfl hne
        · exact .letters fun hdash => hrest more (by rw [hdash])
      | cons b more => exact .unreadableLetters _ _
  · exact .word _

/-! ### What the quick look makes of an argument -/

/-- The options of the program itself take a choice of words, so unreadable values are never accepted. -/
theorem kind_of_mem_options {o : ValueOption} (ho : o ∈ topGrammar.options) :
    ∃ names, o.kind = .choice names := by
  simp only [topGrammar, globalOptions, List.mem_cons, List.not_mem_nil, or_false] at ho
  rcases ho with rfl | rfl <;> exact ⟨_, rfl⟩

/-- The quick look goes past the argument. -/
def PassedOver (arg : Raw) : Prop := ∀ rest, callsHarness (arg :: rest) = callsHarness rest

theorem callsHarness_dashes (rest : List Raw) : callsHarness (⟨['-', '-'], []⟩ :: rest) = false := by
  rw [callsHarness.eq_def]
  simp [Raw.text?]

theorem callsHarness_option {name : List Char} (hne : name ≠ []) (heq : '=' ∉ name) {o : ValueOption}
    (ho : o ∈ topGrammar.options) (hname : o.name.toList = name) (rest : List Raw) :
    callsHarness (⟨'-' :: '-' :: name, []⟩ :: rest) = callsHarness rest.tail := by
  have hany : topGrammar.options.any (·.name.toList = name) = true :=
    List.any_eq_true.mpr ⟨o, ho, decide_eq_true hname⟩
  rw [callsHarness.eq_def]
  cases rest <;> simp [Raw.text?, hne, heq, hany, callsHarness]

theorem passedOver_name {name : List Char} (hne : name ≠ [])
    (h : topGrammar.options.any (·.name.toList = name) = false) : PassedOver ⟨'-' :: '-' :: name, []⟩ := by
  intro rest
  rw [callsHarness.eq_def]
  simp [Raw.text?, hne, h]

theorem passedOver_nameValue {name value : List Char} :
    PassedOver ⟨'-' :: '-' :: (name ++ '=' :: value), []⟩ := by
  intro rest
  rw [callsHarness.eq_def]
  simp [Raw.text?]

theorem passedOver_letters {letter : Char} {more : List Char} (hne : letter ≠ '-') :
    PassedOver ⟨'-' :: letter :: more, []⟩ := by
  intro rest
  rw [callsHarness.eq_def]
  simp only [Raw.text?, List.isEmpty_nil, if_true, String.toList_ofList]
  split
  · next h =>
    obtain ⟨-, hletter⟩ := List.cons.inj h
    exact absurd (List.cons.inj hletter).1 hne
  · rfl
  · next h => exact absurd rfl (h _)

theorem callsHarness_word {word : String} (h : word.toList.head? ≠ some '-') (rest : List Raw) :
    callsHarness (.ofString word :: rest) = harnessCommands.any (·.name = word) := by
  rw [callsHarness.eq_def]
  simp only [Raw.text?, Raw.ofString, List.isEmpty_nil, if_true, String.ofList_toList]
  split
  · next hchars => exact absurd (by rw [hchars]; rfl) h
  · next hchars => exact absurd (by rw [hchars]; rfl) h
  · rfl

/-! ### What one argument does -/

/-- From one level to the other everything that was pending has been looked at. -/
structure Settles (l l' : Level) : Prop where
  before : l.awaits = false
  after : l'.pending = none
  trailing : l'.trailing = l.trailing

variable {l l' l'' : Level} {arg : Raw} {rest : List Raw}

theorem Settles.awaits (h : Settles l l') : l'.awaits = false := by
  rw [Level.awaits, h.after]

theorem Settles.trans (h : Settles l l') (h' : Settles l' l'') : Settles l l'' :=
  ⟨h.before, h'.after, h'.trailing.trans h.trailing⟩

theorem settles_of_settle (h : l.settle = .ok l') : Settles l l' := by
  unfold Level.settle at h
  split at h
  · next hpending =>
    cases h
    exact ⟨by rw [Level.awaits, hpending], hpending, rfl⟩
  · cases h
  · next hpending =>
    simp only [ite_throw_bind_eq_ok, bind_eq_ok] at h
    obtain ⟨-, _, -, ⟨⟩⟩ := h
    exact ⟨by rw [Level.awaits, hpending], rfl, rfl⟩
  · next hpending =>
    obtain ⟨_, -, ⟨⟩⟩ := bind_eq_ok.mp h
    exact ⟨by rw [Level.awaits, hpending], rfl, rfl⟩
  · next hpending =>
    obtain ⟨_, -, ⟨⟩⟩ := bind_eq_ok.mp h
    exact ⟨by rw [Level.awaits, hpending], rfl, rfl⟩

/-- A value that is taken can be read. -/
theorem stray_of_settle {o : ValueOption} {value : Raw} (ho : o ∈ topGrammar.options)
    (hpending : l.pending = some (.option o (some value))) (h : l.settle = .ok l') : value.stray = [] := by
  simp only [Level.settle, hpending, ite_throw_bind_eq_ok, bind_eq_ok] at h
  obtain ⟨-, _, hcheck, -⟩ := h
  obtain ⟨names, hkind⟩ := kind_of_mem_options ho
  rw [hkind] at hcheck
  cases hstray : value.stray with
  | nil => rfl
  | cons b more => simp [ValueKind.check, Raw.text?, hstray] at hcheck

theorem settles_of_setFlag {f : Flag} (h : l.setFlag f = .ok l') : Settles l l' := by
  unfold Level.setFlag at h
  obtain ⟨l₁, hsettle, h⟩ := bind_eq_ok.mp h
  simp only [ite_throw_bind_eq_ok] at h
  obtain ⟨-, -, ⟨⟩⟩ := h
  have := settles_of_settle hsettle
  exact ⟨this.before, this.after, this.trailing⟩

/-- A cluster of letters is a flag for each of its letters. -/
theorem settles_of_letters {flag? : Char → Option Flag} {letters : List Char} (hne : letters ≠ [])
    (h : letters.foldlM (fun (l : Level) c =>
      match flag? c with
      | some f => l.setFlag f
      | none => .error .unknownArgument) l = .ok l') : Settles l l' := by
  induction letters generalizing l with
  | nil => exact absurd rfl hne
  | cons letter more ih =>
    rw [List.foldlM_cons, bind_eq_ok] at h
    obtain ⟨l₁, hfirst, hmore⟩ := h
    have hfirst : Settles l l₁ := by
      split at hfirst
      · exact settles_of_setFlag hfirst
      · cases hfirst
    rcases more with _ | ⟨next, more⟩
    · cases hmore
      exact hfirst
    · exact hfirst.trans (ih (List.cons_ne_nil _ _) hmore)

theorem settles_of_longValue {name : String} {value : Raw}
    (h : l.long topGrammar arg name (some value) = .ok l') : value.stray = [] ∧ Settles l l' := by
  unfold Level.long at h
  split at h
  · next o hfind =>
    obtain ⟨l₁, hsettle, h⟩ := bind_eq_ok.mp h
    simp only [Option.isSome_some, if_true] at h
    have hfirst := settles_of_settle hsettle
    have hlast := settles_of_settle h
    refine ⟨stray_of_settle (List.mem_of_find?_eq_some hfind) rfl h, hfirst.before, hlast.after, ?_⟩
    exact hlast.trailing.trans hfirst.trailing
  · cases h
  · cases h

theorem awaits_or_settles_of_long {name : String} (h : l.long topGrammar arg name none = .ok l') :
    (∃ o ∈ topGrammar.options, o.name = name ∧
      ∃ l₁, Settles l l₁ ∧ l' = { l₁ with pending := some (.option o none) }) ∨
    ((∀ o ∈ topGrammar.options, o.name ≠ name) ∧ Settles l l') := by
  unfold Level.long at h
  split at h
  · next o hfind =>
    obtain ⟨l₁, hsettle, ⟨⟩⟩ := bind_eq_ok.mp h
    have hname : o.name = name := by simpa using List.find?_some hfind
    exact Or.inl ⟨o, List.mem_of_find?_eq_some hfind, hname, l₁, settles_of_settle hsettle, rfl⟩
  · next f hnone _ =>
    refine Or.inr ⟨fun o ho => ?_, settles_of_setFlag h⟩
    simpa using List.find?_eq_none.mp hnone o ho
  · cases h

/-- What an argument does to a level of the program itself. -/
inductive Taken (l : Level) (arg : Raw) : Level → Prop
  | value {o : ValueOption} (h : l.pending = some (.option o none)) :
      Taken l arg { l with pending := some (.option o (some arg)) }
  | dashes (h : arg = ⟨['-', '-'], []⟩) : Taken l arg { l with trailing := true }
  | option {l' : Level} {o : ValueOption} (hl : Settles l l')
      (h : ∀ rest, callsHarness (arg :: rest) = callsHarness rest.tail) :
      Taken l arg { l' with pending := some (.option o none) }
  | complete {l' : Level} (hl : Settles l l') (h : PassedOver arg) : Taken l arg l'

theorem taken_of_take (h : l.take topGrammar arg = .ok l') : Taken l arg l' := by
  have htakes : l.takesHyphens topGrammar = false := rfl
  have hspelled := spelled arg
  unfold Level.take at h
  generalize shape arg = s at h hspelled
  cases hspelled with
  | word =>
    simp only [Level.word] at h
    split at h
    · next hpending =>
      cases h
      exact .value hpending
    · cases h
  | dashes =>
    cases h
    exact .dashes rfl
  | @name name hne heq =>
    rcases awaits_or_settles_of_long h with ⟨o, ho, hname, l₁, hl, rfl⟩ | ⟨hnone, hl⟩
    · exact .option hl (callsHarness_option hne heq ho (by rw [hname, String.toList_ofList]))
    · refine .complete hl (passedOver_name hne (List.any_eq_false.mpr fun o ho hname => hnone o ho ?_))
      rw [← of_decide_eq_true hname, String.ofList_toList]
  | nameValue =>
    obtain ⟨rfl, hl⟩ := settles_of_longValue h
    exact .complete hl passedOver_nameValue
  | letters hne =>
    simp only [Level.short, htakes, Bool.false_and, Bool.false_eq_true, if_false] at h
    obtain ⟨l₁, hl, ⟨⟩⟩ := bind_eq_ok.mp h
    exact .complete (settles_of_letters (List.cons_ne_nil _ _) hl) (passedOver_letters hne)
  | unreadableName => cases h
  | unreadableLetters =>
    simp only [Level.short, htakes, Bool.false_and, Bool.false_eq_true, if_false, if_true] at h
    obtain ⟨l₁, -, ⟨⟩⟩ := bind_eq_ok.mp h

/-! ### What a whole command line does -/

/-- Whether the word at which the parser stops is a harness command. -/
def leadsToHarness (found : Option (String × List Raw)) : Bool :=
  found.any fun p => harnessCommands.any (·.name = p.1)

theorem head_ne_dash_of_mem_commands : ∀ word ∈ topGrammar.commands, word.toList.head? ≠ some '-' := by
  decide

/-- Nothing may follow once there are no more options. -/
theorem eq_nil_of_scan {args : List Raw} {found : Option (String × List Raw)} (ht : l.trailing = true)
    (h : l.scan topGrammar args = .ok (l', found)) : args = [] ∧ l' = l ∧ found = none := by
  cases args with
  | nil =>
    cases h
    exact ⟨rfl, rfl, rfl⟩
  | cons arg rest =>
    rw [Level.scan, if_pos ht] at h
    obtain ⟨_, ⟨⟩, -⟩ := bind_eq_ok.mp h

theorem eq_ofString_of_is {word : String} (h : arg.is word = true) : arg = .ofString word := by
  obtain ⟨chars, stray⟩ := arg
  simpa [Raw.is, Raw.ofString] using h

theorem word_or_taken_of_scan {found : Option (String × List Raw)} (ht : l.trailing = false)
    (h : l.scan topGrammar (arg :: rest) = .ok (l', found)) :
    (l.awaits = false ∧ ∃ word ∈ topGrammar.commands, arg = .ofString word ∧ l' = l ∧ found = some (word, rest)) ∨
    ∃ l₁, Taken l arg l₁ ∧ l₁.scan topGrammar rest = .ok (l', found) := by
  rw [Level.scan, ht, if_neg Bool.false_ne_true] at h
  split at h
  · next word hfind =>
    cases h
    split at hfind
    · cases hfind
    · next hl =>
      refine Or.inl ⟨eq_false_of_ne_true hl, word, List.mem_of_find?_eq_some hfind, ?_, rfl, rfl⟩
      exact eq_ofString_of_is (List.find?_some hfind)
  · obtain ⟨l₁, htake, hrest⟩ := bind_eq_ok.mp h
    exact Or.inr ⟨l₁, taken_of_take htake, hrest⟩

/-- The quick look sees the word at which the parser stops, unless the parser refuses the command line.
    An option that waits for its value takes the next argument, whatever that is. -/
theorem callsHarness_of_scan {args : List Raw} {found : Option (String × List Raw)} (ht : l.trailing = false)
    (h : l.scan topGrammar args = .ok (l', found)) (hend : l'.settle = .ok l'') :
    callsHarness (if l.awaits then args.tail else args) = leadsToHarness found := by
  have hawaits := (settles_of_settle hend).before
  induction args generalizing l with
  | nil =>
    cases h
    rw [List.tail_nil, ite_self]
    rfl
  | cons arg rest ih =>
    rcases word_or_taken_of_scan ht h with ⟨hl, word, hword, rfl, rfl, rfl⟩ | ⟨l₁, htaken, hrest⟩
    · rw [hl]
      exact callsHarness_word (head_ne_dash_of_mem_commands word hword) rest
    · cases htaken with
      | value hpending =>
        have hl : l.awaits = true := by rw [Level.awaits, hpending]
        rw [hl]
        refine ih ?_ hrest
        exact ht
      | dashes harg =>
        obtain ⟨rfl, rfl, rfl⟩ := eq_nil_of_scan rfl hrest
        have hl : l.awaits = false := hawaits
        rw [hl, harg]
        exact callsHarness_dashes []
      | option hl hskip =>
        rw [hl.before]
        refine (hskip rest).trans (ih ?_ hrest)
        exact hl.trailing.trans ht
      | complete hl hpass =>
        have hafter := ih (hl.trailing.trans ht) hrest
        rw [hl.awaits] at hafter
        rw [hl.before]
        exact (hpass rest).trans hafter

theorem settle_of_finish {env : Environment} (h : l.finish topGrammar env = .ok l') :
    ∃ l₁, l.settle = .ok l₁ := by
  obtain ⟨l₁, hsettle, -⟩ := bind_eq_ok.mp h
  exact ⟨l₁, hsettle⟩

/-- Of the command lines that are understood, the quick look picks out those of the harness commands. -/
theorem callsHarness_iff_of_parse {env : Environment} {args : List Raw} {i : Invocation}
    (h : parse env args = .ok i) :
    callsHarness args = true ↔ i.command = .numeric ∨ ∃ config, i.command = .sort config := by
  unfold parse at h
  obtain ⟨⟨top, found⟩, hscan, h⟩ := bind_eq_ok.mp h
  have hlook : ∀ top', top.settle = .ok top' → callsHarness args = leadsToHarness found :=
    fun _ hend => callsHarness_of_scan rfl hscan hend
  split at h
  · next heq =>
    cases heq
    obtain ⟨top', hfinish, ⟨⟩⟩ := bind_eq_ok.mp h
    obtain ⟨_, hsettle⟩ := settle_of_finish hfinish
    rw [hlook _ hsettle]
    simp [leadsToHarness, Invocation.command]
  · next word rest heq =>
    cases heq
    simp only [ite_throw_bind_eq_ok] at h
    obtain ⟨-, h⟩ := h
    split at h
    · cases h
    · next name hname =>
      obtain ⟨⟨sub, _⟩, -, h⟩ := bind_eq_ok.mp h
      obtain ⟨sub', -, h⟩ := bind_eq_ok.mp h
      obtain ⟨top', hfinish, ⟨⟩⟩ := bind_eq_ok.mp h
      obtain ⟨_, hsettle⟩ := settle_of_finish hfinish
      have hword : name.name = word := by simpa using List.find?_some hname
      rw [hlook _ hsettle, ← hword]
      cases name <;> simp [leadsToHarness, Invocation.command, commandOf, harnessCommands, CommandName.name]

end KernelAudit.CommandLine
