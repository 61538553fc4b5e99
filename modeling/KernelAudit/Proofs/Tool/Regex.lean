import KernelAudit.Tool.Search
import Mathlib.Data.List.Infix

/-! Matches of regular expressions. Whatever is found goes through the text as the expression says, character by
    character; the match that counts begins where no earlier one does, and is as long as any that was found there. -/

namespace KernelAudit.Tool.Regex

/-- The expression stands for a single character, and the character is one of those that it stands for. -/
def Takes (ignoresCase : Bool) : Regex → Char → Prop
  | .char d, c => sameLetter ignoresCase d c = true
  | .any, _ => True
  | .set negated members, c => inSet ignoresCase members c ≠ negated
  | _, _ => False

/-- The expression leads from one point of a text to another one. -/
inductive Leads (ignoresCase : Bool) : Regex → Progress → Progress → Prop where
  | empty (p : Progress) : Leads ignoresCase .empty p p
  | take {r : Regex} {c : Char} (h : r.Takes ignoresCase c) {p : Progress} {rest : List Char} (hrest : p.rest = c :: rest) :
    Leads ignoresCase r p { p with position := p.position + 1, rest }
  | lineStart {p : Progress} (h : p.position = 0) : Leads ignoresCase .lineStart p p
  | lineEnd {p : Progress} (h : p.rest = []) : Leads ignoresCase .lineEnd p p
  | sequence {a b : Regex} {p q s : Progress} (h : Leads ignoresCase a p q) (h' : Leads ignoresCase b q s) :
    Leads ignoresCase (.sequence a b) p s
  | first {a b : Regex} {p q : Progress} (h : Leads ignoresCase a p q) : Leads ignoresCase (.either a b) p q
  | second {a b : Regex} {p q : Progress} (h : Leads ignoresCase b p q) : Leads ignoresCase (.either a b) p q
  | enough {a : Regex} {most : Option Nat} (p : Progress) : Leads ignoresCase (.repeated a 0 most) p p
  | more {a : Regex} {least : Nat} {most : Option Nat} (hmost : most ≠ some 0) {p q s : Progress}
    (h : Leads ignoresCase a p q) (h' : Leads ignoresCase (.repeated a (least - 1) (most.map (· - 1))) q s) :
    Leads ignoresCase (.repeated a least most) p s
  | group (n : Nat) {a : Regex} {p q : Progress} (h : Leads ignoresCase a p q) :
    Leads ignoresCase (.group n a) p { q with groups := (n, p.position, q.position) :: q.groups }

variable {ignoresCase : Bool} {r : Regex} {p q : Progress}

/-- A match goes forward, by the text that it takes. -/
theorem Leads.text (h : Leads ignoresCase r p q) :
    ∃ text, p.rest = text ++ q.rest ∧ q.position = p.position + text.length := by
  induction h with
  | empty | lineStart | lineEnd | enough => exact ⟨[], rfl, rfl⟩
  | @take _ c _ _ _ hrest => exact ⟨[c], hrest, rfl⟩
  | first _ ih | second _ ih | group _ _ ih => exact ih
  | sequence _ _ ih ih' | more _ _ _ ih ih' =>
    obtain ⟨front, hfront, hposition⟩ := ih
    obtain ⟨back, hback, hposition'⟩ := ih'
    refine ⟨front ++ back, ?_, ?_⟩
    · rw [hfront, hback, List.append_assoc]
    · rw [hposition', hposition, List.length_append, Nat.add_assoc]

theorem mem_of_mem_distinct {ps : List Progress} (h : q ∈ distinct ps) : q ∈ ps := by
  refine List.foldlRecOn (motive := fun kept => q ∈ kept → q ∈ ps) ps _ (absurd · List.not_mem_nil) (fun kept ih p hp hq => ?_)
    (List.mem_reverse.mp h)
  split at hq
  · exact ih hq
  · rcases List.mem_cons.mp hq with rfl | hq
    · exact hp
    · exact ih hq

theorem leads_of_taken {test : Char → Bool} (htest : ∀ c, test c = true → r.Takes ignoresCase c)
    (h : q ∈ (match p.rest with
      | c :: rest => if test c then [{ p with position := p.position + 1, rest }] else []
      | [] => ([] : List Progress))) : Leads ignoresCase r p q := by
  split at h
  · next c rest hrest =>
    split at h
    · next hc =>
      rw [List.mem_singleton.mp h]
      exact .take (htest c hc) hrest
    · cases h
  · cases h

/-- Every way that is found is one that the expression allows. -/
theorem leads_of_mem_ways {fuel : Nat} (h : q ∈ ways ignoresCase fuel r p) : Leads ignoresCase r p q := by
  induction fuel generalizing r p q with
  | zero => cases h
  | succ fuel ih =>
    unfold ways at h
    cases r with
    | empty =>
      rw [List.mem_singleton.mp h]
      exact .empty p
    | char c => exact leads_of_taken (fun _ => id) h
    | any => exact leads_of_taken (fun _ _ => trivial) h
    | set negated members => exact leads_of_taken (fun c hc => (of_decide_eq_true hc : inSet ignoresCase members c ≠ negated)) h
    | lineStart =>
      dsimp only at h
      split at h
      · next hstart =>
        rw [List.mem_singleton.mp h]
        exact .lineStart hstart
      · cases h
    | lineEnd =>
      dsimp only at h
      split at h
      · next hend =>
        rw [List.mem_singleton.mp h]
        exact .lineEnd (List.isEmpty_iff.mp hend)
      · cases h
    | sequence a b =>
      obtain ⟨middle, hmiddle, hq⟩ := List.mem_flatMap.mp (mem_of_mem_distinct h)
      exact .sequence (ih hmiddle) (ih hq)
    | either a b =>
      rcases List.mem_append.mp (mem_of_mem_distinct h) with h | h
      · exact .first (ih h)
      · exact .second (ih h)
    | repeated a least most =>
      have hmore : ∀ keep : Progress → Bool, q ∈ (if most = some 0 then []
          else ((ways ignoresCase fuel a p).filter keep).flatMap fun middle =>
            ways ignoresCase fuel (repeated a (least - 1) (most.map (· - 1))) middle) →
          Leads ignoresCase (.repeated a least most) p q := by
        intro keep h
        split at h
        · cases h
        · next hmost =>
          obtain ⟨middle, hmiddle, hq⟩ := List.mem_flatMap.mp h
          exact .more hmost (ih (List.mem_of_mem_filter hmiddle)) (ih hq)
      have h := mem_of_mem_distinct h
      split at h
      · next hleast =>
        rcases List.mem_append.mp h with h | h
        · exact hmore _ h
        · rw [List.mem_singleton.mp h, hleast]
          exact .enough p
      · exact hmore _ h
    | group n a =>
      obtain ⟨inner, hinner, rfl⟩ := List.mem_map.mp h
      exact .group n (ih hinner)

/-! ### Matches in a text -/

theorem foldl_longest {ps : List Progress} {best : Option Progress}
    (h : ps.foldl (fun best p => match best with
      | some b => if b.position < p.position then some p else best
      | none => some p) best = some q) :
    (q ∈ ps ∨ best = some q) ∧ (∀ p ∈ ps, p.position ≤ q.position) ∧ ∀ b, best = some b → b.position ≤ q.position := by
  induction ps generalizing best with
  | nil => exact ⟨.inr h, nofun, fun b hb => by cases hb.symm.trans h; exact Nat.le_refl _⟩
  | cons p ps ih =>
    obtain ⟨hq, hlonger, hbest⟩ := ih h
    rcases best with _ | b
    · have hp := hbest p rfl
      refine ⟨.inl ?_, List.forall_mem_cons.mpr ⟨hp, hlonger⟩, nofun⟩
      rcases hq with hq | hq
      · exact List.mem_cons_of_mem p hq
      · cases hq
        exact List.mem_cons_self
    · dsimp only at hq hbest
      split at hq
      · next hlt =>
        rw [if_pos hlt] at hbest
        have hp := hbest p rfl
        refine ⟨.inl ?_, List.forall_mem_cons.mpr ⟨hp, hlonger⟩, ?_⟩
        · rcases hq with hq | hq
          · exact List.mem_cons_of_mem p hq
          · cases hq
            exact List.mem_cons_self
        · rintro _ ⟨⟩
          omega
      · next hle =>
        rw [if_neg hle] at hbest
        have hb := hbest b rfl
        refine ⟨hq.imp_left (List.mem_cons_of_mem p), List.forall_mem_cons.mpr ⟨by omega, hlonger⟩, ?_⟩
        rintro _ ⟨⟩
        exact hb

/-- What matches at a point is a way through the expression, and none that was found there is longer. -/
theorem matchAt_spec {position : Nat} {rest : List Char} (h : matchAt ignoresCase r position rest = some q) :
    Leads ignoresCase r ⟨position, rest, []⟩ q ∧
      ∀ other ∈ ways ignoresCase (2000 + 4 * rest.length) r ⟨position, rest, []⟩, other.position ≤ q.position := by
  obtain ⟨hq, hlonger, -⟩ := foldl_longest h
  exact ⟨leads_of_mem_ways (hq.resolve_right nofun), hlonger⟩

/-- Where a search of a text has come to a match: it begins at `start`, and none begins before. -/
def FirstMatch (ignoresCase : Bool) (r : Regex) (position : Nat) (text : List Char) (start : Nat) (q : Progress) : Prop :=
  ∃ before rest, text = before ++ rest ∧ start = position + before.length ∧ Leads ignoresCase r ⟨start, rest, []⟩ q ∧
    ∀ k < before.length, matchAt ignoresCase r (position + k) (text.drop k) = none

theorem firstMatch_here {position : Nat} {text : List Char} (h : matchAt ignoresCase r position text = some q) :
    FirstMatch ignoresCase r position text position q :=
  ⟨[], text, rfl, rfl, (matchAt_spec h).1, nofun⟩

theorem FirstMatch.later {position start : Nat} {c : Char} {text : List Char}
    (hnone : matchAt ignoresCase r position (c :: text) = none) (h : FirstMatch ignoresCase r (position + 1) text start q) :
    FirstMatch ignoresCase r position (c :: text) start q := by
  obtain ⟨before, rest, rfl, hstart, hleads, hearlier⟩ := h
  refine ⟨c :: before, rest, rfl, by rw [hstart, List.length_cons]; omega, hleads, ?_⟩
  rintro (_ | k) hk
  · exact hnone
  · have hk := hearlier k (Nat.lt_of_succ_lt_succ hk)
    rwa [Nat.add_assoc, Nat.add_comm 1] at hk

/-- The match that is found begins as early as any. -/
theorem search_spec {position start : Nat} {text : List Char} (h : search ignoresCase r position text = some (start, q)) :
    FirstMatch ignoresCase r position text start q := by
  induction text generalizing position with
  | nil =>
    obtain ⟨_, hmatch, ⟨⟩⟩ := Option.map_eq_some_iff.mp h
    exact firstMatch_here hmatch
  | cons c text ih =>
    rw [search] at h
    split at h
    · next hmatch =>
      cases h
      exact firstMatch_here hmatch
    · next hnone => exact (ih h).later hnone

end KernelAudit.Tool.Regex
