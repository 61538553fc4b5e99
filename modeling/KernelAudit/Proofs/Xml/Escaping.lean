import KernelAudit.Proofs.Xml.Reading
import Mathlib.Logic.Function.Basic

/-! Escaping as a code. In an escaped text no mark stands but the ampersands that begin references, and these
    are replaced from left to right; an ampersand of the text itself became a reference of its own, so what
    stands behind it is never taken for the rest of one. Every text of this form is the code of exactly one. -/

namespace KernelAudit.Xml

/-- No mark stands in the text but ampersands, and each of them begins a reference. -/
structure Escaped (cs : List Char) : Prop where
  unmarked : ∀ c ∈ ['<', '>', '"', '\''], c ∉ cs
  references : ∀ before after, cs = before ++ '&' :: after → ∃ name ∈ entities, name.toList ++ [';'] <+: after

theorem Escaped.of_append {before after : List Char} (h : Escaped (before ++ after)) : Escaped after where
  unmarked c hc hmem := h.unmarked c hc (List.mem_append_right before hmem)
  references before' after' heq := h.references (before ++ before') after' (by rw [heq, List.append_assoc])

/-! ### The code of a text -/

theorem amp_not_mem_of_entity {name : String} (h : name ∈ entities) : '&' ∉ name.toList ++ [';'] := by
  have hall : ∀ name ∈ entities, '&' ∉ name.toList ++ [';'] := by decide
  exact hall name h

/-- An ampersand in the code of one character is its beginning. -/
theorem reference_of_escapeChar {c : Char} {before after : List Char} (h : escapeChar c = before ++ '&' :: after) :
    ∃ name ∈ entities, after = name.toList ++ [';'] := by
  rcases escapeChar_cases c with ⟨hc, heq⟩ | ⟨-, name, hname, heq⟩
  · have hmem : '&' ∈ [c] := by
      rw [← heq, h]
      exact List.mem_append_right before List.mem_cons_self
    exact absurd (List.mem_singleton.mp hmem ▸ List.mem_cons_self) hc
  · have hsplit : '&' :: (name.toList ++ [';']) = before ++ '&' :: after := heq.symm.trans h
    rcases before with _ | ⟨d, before⟩
    · exact ⟨name, hname, (List.cons.inj hsplit).2.symm⟩
    · have hmem : '&' ∈ name.toList ++ [';'] := by
        rw [(List.cons.inj hsplit).2]
        exact List.mem_append_right before List.mem_cons_self
      exact absurd hmem (amp_not_mem_of_entity hname)

theorem escaped_escape (cs : List Char) : Escaped (cs.flatMap escapeChar) where
  unmarked _ hc := not_mem_escape hc cs
  references := by
    induction cs with
    | nil => exact fun before after h => absurd h (by simp)
    | cons c cs ih =>
      intro before after h
      rw [List.flatMap_cons] at h
      rcases List.append_eq_append_iff.mp h with ⟨rest, rfl, hrest⟩ | ⟨rest, hchar, hrest⟩
      · exact ih rest after hrest
      · rcases rest with _ | ⟨d, rest⟩
        · exact ih [] after hrest.symm
        · obtain ⟨rfl, rfl⟩ := List.cons.inj hrest
          obtain ⟨name, hname, rfl⟩ := reference_of_escapeChar hchar
          exact ⟨name, hname, List.prefix_append _ _⟩

/-! ### The text of a code -/

theorem unescape_reference {name : String} (h : name ∈ entities) :
    ∃ c, escapeChar c = reference name ∧ ∀ rest, unescape (reference name ++ rest) = c :: unescape rest := by
  simp only [entities, List.mem_cons, List.not_mem_nil, or_false] at h
  rcases h with rfl | rfl | rfl | rfl | rfl
  · exact ⟨'&', rfl, fun _ => rfl⟩
  · exact ⟨'<', rfl, fun _ => rfl⟩
  · exact ⟨'>', rfl, fun _ => rfl⟩
  · exact ⟨'"', rfl, fun _ => rfl⟩
  · exact ⟨'\'', rfl, fun _ => rfl⟩

theorem escapeChar_of_not_mem_marks {c : Char} (h : c ∉ marks) : escapeChar c = [c] := by
  rcases escapeChar_cases c with ⟨-, heq⟩ | ⟨hmem, -⟩
  · exact heq
  · exact absurd hmem h

theorem Escaped.escape_unescape {cs : List Char} (h : Escaped cs) : (unescape cs).flatMap escapeChar = cs := by
  -- a reference is read whole, so what is left of the text can be shorter by several characters
  induction hlength : cs.length using Nat.strongRecOn generalizing cs with
  | ind n ih =>
    rcases cs with _ | ⟨c, cs⟩
    · rfl
    · by_cases hc : c = '&'
      · obtain ⟨name, hname, rest, rfl⟩ := h.references [] cs (by rw [hc, List.nil_append])
        obtain ⟨d, hd, hunescape⟩ := unescape_reference hname
        have hsplit : c :: (name.toList ++ [';'] ++ rest) = reference name ++ rest := by rw [hc, reference]; rfl
        have hrest : rest.length < n := by
          rw [← hlength, List.length_cons, List.length_append]
          omega
        rw [hsplit] at h ⊢
        rw [hunescape, List.flatMap_cons, hd, ih rest.length hrest h.of_append rfl]
      · have hmark : c ∉ marks := by
          intro hmem
          rcases List.mem_cons.mp hmem with heq | hmem
          · exact hc heq
          · exact h.unmarked c hmem List.mem_cons_self
        have hrest : cs.length < n := by
          rw [← hlength, List.length_cons]
          omega
        have htail : Escaped ([c] ++ cs) := h
        rw [unescape_cons hc, List.flatMap_cons, escapeChar_of_not_mem_marks hmark, List.singleton_append,
          ih cs.length hrest htail.of_append rfl]

/-! ### Texts -/

/-- A text with its references replaced, in one pass from left to right. -/
def unescaped (s : String) : String := String.ofList (unescape s.toList)

theorem toList_escape (s : String) : (escape s).toList = s.toList.flatMap escapeChar := String.toList_ofList

theorem unescaped_escape (s : String) : unescaped (escape s) = s := by
  rw [unescaped, toList_escape, unescape_escape, String.ofList_toList]

theorem escape_unescaped {t : String} (h : Escaped t.toList) : escape (unescaped t) = t := by
  rw [escape, unescaped, String.toList_ofList, h.escape_unescape, String.ofList_toList]

/-- In the code of any text no mark stands as it is, and an ampersand only where a reference begins; one pass
    over the references gives the text back, so no two texts have the same code. And whatever has this form is
    the code of a text. -/
theorem escape_is_code :
    (∀ s, Escaped (escape s).toList) ∧ (∀ s, unescaped (escape s) = s) ∧ Function.Injective escape ∧
      ∀ t, Escaped t.toList ↔ ∃ s, escape s = t := by
  have hescaped : ∀ s, Escaped (escape s).toList := fun s => toList_escape s ▸ escaped_escape s.toList
  refine ⟨hescaped, unescaped_escape, Function.LeftInverse.injective unescaped_escape, fun t => ⟨fun h => ?_, ?_⟩⟩
  · exact ⟨unescaped t, escape_unescaped h⟩
  · rintro ⟨s, rfl⟩
    exact hescaped s

/-- What looks like a reference in a text is kept as it is. -/
example : escape "&amp;lt;" = "&amp;amp;lt;" ∧ unescaped "&amp;amp;lt;" = "&amp;lt;" := by decide

end KernelAudit.Xml
