import KernelAudit.Validator.Numeric
import Mathlib.Data.List.Nodup

/-! Which kernels the description of a comparison names. Each part of it begins with the name of a kernel in
    front of a parenthesis, and no parenthesis opens anywhere else, whatever the numbers are; so a name is read
    in front of one exactly if the comparison of that kernel failed. -/

namespace KernelAudit

/-! ### Names in front of a parenthesis -/

/-- The text tells of a call of something with the given name. -/
def TellsOf (name text : List Char) : Prop := name ++ ['('] <:+: text

theorem not_tellsOf {name text : List Char} (h : '(' ∉ text) : ¬TellsOf name text := fun hname =>
  h (hname.subset (List.mem_append_right _ (List.mem_singleton_self _)))

/-- The name of a call stands before the first parenthesis or is found behind it. -/
theorem tellsOf_append_iff {name before behind : List Char} (hname : '(' ∉ name) (hbefore : '(' ∉ before) :
    TellsOf name (before ++ '(' :: behind) ↔ name <:+ before ∨ TellsOf name behind := by
  constructor
  · rintro ⟨front, rest, htext⟩
    rw [List.append_assoc, List.append_assoc, ← List.append_assoc] at htext
    rcases List.append_eq_append_iff.mp htext with ⟨between, hsplit, hrest⟩ | ⟨between, hsplit, hrest⟩
    · cases between with
      | nil => exact Or.inl ⟨front, by rw [hsplit, List.append_nil]⟩
      | cons c between =>
        cases hrest
        exact absurd (hsplit ▸ List.mem_append_right _ List.mem_cons_self) hbefore
    · cases between with
      | nil => exact Or.inl ⟨front, by rw [hsplit, List.append_nil]⟩
      | cons c between =>
        cases hrest
        -- The name ends behind the parenthesis, and does not reach across it.
        refine Or.inr ?_
        have hsuffix : name <:+ between := by
          have hwhole : name <:+ before ++ '(' :: between := ⟨front, hsplit⟩
          rcases List.suffix_or_suffix_of_suffix hwhole (List.suffix_append before ('(' :: between)) with h | h
          · rcases List.suffix_cons_iff.mp h with rfl | h
            · exact absurd List.mem_cons_self hname
            · exact h
          · exact absurd (h.subset List.mem_cons_self) hname
        obtain ⟨front', rfl⟩ := hsuffix
        exact ⟨front', rest, by simp⟩
  · rintro (⟨front, rfl⟩ | ⟨front, rest, rfl⟩)
    · exact ⟨front, behind, by simp⟩
    · exact ⟨before ++ '(' :: front, rest, by simp⟩

/-- Of two names in question none ends in the other. -/
def Apart (name other : List Char) : Prop := name <:+ other ∨ other <:+ name → name = other

/-- Calls that are told of one after the other, with no parenthesis but those behind their names. -/
theorem tellsOf_intercalate_iff {name sep : List Char} (hname : '(' ∉ name) (hsep : '(' ∉ sep)
    {calls : List (List Char × List Char)} {front : List Char} (hfront : '(' ∉ front)
    (hcalls : ∀ call ∈ calls, '(' ∉ call.1 ∧ '(' ∉ call.2 ∧ Apart name call.1) :
    TellsOf name (front ++ sep.intercalate (calls.map fun call => call.1 ++ '(' :: call.2)) ↔
      name ∈ calls.map Prod.fst := by
  have hends : ∀ {front other : List Char}, Apart name other → (name <:+ front ++ other ↔ name = other) := by
    intro front other hapart
    constructor
    · exact fun h => hapart (List.suffix_or_suffix_of_suffix h (List.suffix_append front other))
    · rintro rfl
      exact List.suffix_append front name
  induction calls generalizing front with
  | nil => exact iff_of_false (not_tellsOf (by simpa using hfront)) List.not_mem_nil
  | cons call rest ih =>
    obtain ⟨⟨hfirst, htail, hapart⟩, hrest⟩ := List.forall_mem_cons.mp hcalls
    have hbefore : '(' ∉ front ++ call.1 := List.not_mem_append hfront hfirst
    rw [List.map_cons, List.map_cons, List.mem_cons]
    cases rest with
    | nil =>
      rw [List.map_nil, List.intercalate_singleton, ← List.append_assoc, tellsOf_append_iff hname hbefore, hends hapart]
      exact or_congr_right (iff_of_false (not_tellsOf htail) List.not_mem_nil)
    | cons call' rest =>
      have hbetween : '(' ∉ call.2 ++ sep := List.not_mem_append htail hsep
      have htext : ∀ texts : List (List Char), texts ≠ [] → front ++ sep.intercalate ((call.1 ++ '(' :: call.2) :: texts) =
          (front ++ call.1) ++ '(' :: ((call.2 ++ sep) ++ sep.intercalate texts) := by
        intro texts hne
        obtain ⟨text, texts, rfl⟩ := List.exists_cons_of_ne_nil hne
        rw [List.intercalate_cons_cons]
        simp
      rw [htext _ (by simp), tellsOf_append_iff hname hbefore, hends hapart]
      exact or_congr_right (ih hbetween hrest)

/-! ### The texts of numbers -/

theorem not_mem_toString_nat (n : Nat) : '(' ∉ (toString n).toList := by
  rw [Nat.toString_eq_repr, Nat.toList_repr]
  intro hmem
  exact absurd (Nat.isDigit_of_mem_toDigits (by decide) (by decide) hmem) (by decide)

theorem not_mem_toString_int (i : Int) : '(' ∉ (toString i).toList := by
  cases i with
  | ofNat n => exact not_mem_toString_nat n
  | negSucc n =>
    have htext : toString (Int.negSucc n) = "-" ++ toString (n + 1) := rfl
    rw [htext, String.toList_append]
    exact List.not_mem_append (by decide) (not_mem_toString_nat _)

theorem not_mem_positional (d : Decimal) : '(' ∉ d.positional.toList := by
  have hdigits := not_mem_toString_nat d.digits
  have hzeros : ∀ n, '(' ∉ List.replicate n '0' := fun n hmem => absurd (List.eq_of_mem_replicate hmem) (by decide)
  unfold Decimal.positional
  split
  · rw [String.toList_ofList]
    exact List.not_mem_append hdigits (hzeros _)
  · rw [String.toList_ofList]
    have hpadded := List.not_mem_append (hzeros ((-d.exponent).toNat + 1 - (toString d.digits).toList.length)) hdigits
    exact List.not_mem_append (mt List.mem_of_mem_take hpadded)
      (List.not_mem_cons_of_ne_of_not_mem (by decide) (mt List.mem_of_mem_drop hpadded))

theorem not_mem_text (x : Single) : '(' ∉ x.text.toList := by
  have hsign : ∀ negative : Bool, '(' ∉ (if negative then "-" else "").toList := by decide
  unfold Single.text
  split
  · decide
  · rw [String.toList_append]
    exact List.not_mem_append (hsign _) (by decide)
  · rw [String.toList_append]
    exact List.not_mem_append (hsign _) (by decide)
  · rw [String.toList_append]
    exact List.not_mem_append (hsign _) (not_mem_positional _)

/-! ### Comparisons -/

namespace Numeric

/-- What a part tells behind the parenthesis. -/
def deviationTail (index : Nat) (actual expected : String) : List Char :=
  (toString index).toList ++ ") = ".toList ++ actual.toList ++ ", expected ".toList ++ expected.toList

theorem toList_deviationText (kernel : String) (index : Nat) (actual expected : String) :
    (deviationText kernel index actual expected).toList = kernel.toList ++ '(' :: deviationTail index actual expected := by
  have htext : deviationText kernel index actual expected =
      kernel ++ "(" ++ toString index ++ ") = " ++ actual ++ ", expected " ++ expected := rfl
  simp [htext, deviationTail]

theorem not_mem_deviationTail {index : Nat} {actual expected : String} (hactual : '(' ∉ actual.toList)
    (hexpected : '(' ∉ expected.toList) : '(' ∉ deviationTail index actual expected := by
  have hmark : '(' ∉ ") = ".toList ∧ '(' ∉ ", expected ".toList := by decide
  simp only [deviationTail, List.mem_append, not_or]
  exact ⟨⟨⟨⟨not_mem_toString_nat index, hmark.1⟩, hactual⟩, hmark.2⟩, hexpected⟩

namespace Comparison
variable (c : Comparison)

/-- What can be told of a comparison, each call with the flag that lets it be told. -/
def calls : List (Bool × List Char × List Char) :=
  [(c.fibMismatch, "fib".toList, deviationTail c.index (toString c.fib.toInt) (toString c.expectedFib.toInt)),
    (c.sqrMismatch, "sqr".toList, deviationTail c.index c.sqr.text c.expectedSqr.text),
    (c.ringMismatch, "ring".toList, deviationTail c.index c.ring.text c.expectedRing.text)]

theorem toList_describe : c.describe.toList = "; ".toList.intercalate
    (((c.calls.filter Prod.fst).map Prod.snd).map fun call => call.1 ++ '(' :: call.2) := by
  rw [describe, String.toList_intercalate]
  congr 1
  rw [parts, calls]
  cases c.fibMismatch <;> cases c.sqrMismatch <;> cases c.ringMismatch <;>
    simp only [if_true, if_false, Bool.false_eq_true, List.filter, List.map, List.nil_append, List.append_nil,
      List.cons_append, toList_deviationText]

theorem names_calls : c.calls.map (fun call => call.2.1) = ["fib".toList, "sqr".toList, "ring".toList] := rfl

theorem apart_names : ∀ name ∈ c.calls.map (fun call => call.2.1), '(' ∉ name ∧
    ∀ other ∈ c.calls.map (fun call => call.2.1), Apart name other := by
  rw [names_calls]
  unfold Apart
  decide

theorem not_mem_calls : ∀ call ∈ c.calls, '(' ∉ call.2.2 := by
  simp only [calls, List.forall_mem_cons]
  exact ⟨not_mem_deviationTail (not_mem_toString_int _) (not_mem_toString_int _),
    not_mem_deviationTail (not_mem_text _) (not_mem_text _), not_mem_deviationTail (not_mem_text _) (not_mem_text _), nofun⟩

/-- The description names a kernel exactly if its comparison failed. -/
theorem tellsOf_describe_iff {call : Bool × List Char × List Char} (h : call ∈ c.calls) :
    TellsOf call.2.1 c.describe.toList ↔ call.1 = true := by
  have hname : call.2.1 ∈ c.calls.map (fun call => call.2.1) := List.mem_map_of_mem h
  obtain ⟨hplain, hapart⟩ := c.apart_names _ hname
  have htold : ∀ told ∈ (c.calls.filter Prod.fst).map Prod.snd,
      '(' ∉ told.1 ∧ '(' ∉ told.2 ∧ Apart call.2.1 told.1 := by
    intro told hmem
    obtain ⟨call', hcall', rfl⟩ := List.mem_map.mp hmem
    have hmem' := List.mem_of_mem_filter hcall'
    exact ⟨(c.apart_names _ (List.mem_map_of_mem hmem')).1, c.not_mem_calls _ hmem', hapart _ (List.mem_map_of_mem hmem')⟩
  have hsep : '(' ∉ "; ".toList := by decide
  have hfront := tellsOf_intercalate_iff hplain hsep List.not_mem_nil htold
  rw [List.nil_append, ← toList_describe] at hfront
  rw [hfront, List.map_map, List.mem_map]
  constructor
  · rintro ⟨call', hcall', hsame⟩
    obtain ⟨hmem, hflag⟩ := List.mem_filter.mp hcall'
    have hnodup : (c.calls.map (fun call => call.2.1)).Nodup := by
      rw [names_calls]
      decide
    obtain rfl := List.inj_on_of_nodup_map hnodup hmem h hsame
    exact hflag
  · exact fun hflag => ⟨call, List.mem_filter.mpr ⟨h, hflag⟩, rfl⟩

end Comparison

end Numeric

end KernelAudit
