import KernelAudit.Json.Printer
import KernelAudit.Json.Reader

/-! Strings and whole numbers are read back from their texts. Every character of a string is written so
    that it reads as one piece that spells it. A number is written as a run of digits, and read up to
    where what stands behind it cannot belong to it. -/

namespace KernelAudit.Json

/-! ### Strings -/

section
variable {c : Char} {n : Nat}

theorem hexDigit?_hexChar : ∀ n < 16, hexDigit? (hexChar n) = some n := by decide

theorem hexUnit?_hexChar (h : n < 0x20) : hexUnit? '0' '0' (hexChar (n / 16)) (hexChar (n % 16)) = some n := by
  have hzero : hexDigit? '0' = some 0 := rfl
  rw [hexUnit?, hzero, hexDigit?_hexChar _ (by omega), hexDigit?_hexChar _ (by omega)]
  exact congrArg some (by omega : ((0 * 16 + 0) * 16 + n / 16) * 16 + n % 16 = n)

theorem readPieces_escaped {e : Char} (h : escaped? e = some c) (cs : List Char) :
    readPieces ('\\' :: e :: cs) = (readPieces cs).map fun p => (.char c :: p.1, p.2) := by
  have hunit : e ≠ 'u' := by
    rintro rfl
    cases h
  rw [readPieces, h]
  · rcases readPieces cs with _ | ⟨pieces, rest⟩ <;> rfl
  · exact fun _ _ _ _ _ heq _ => hunit heq

theorem readPieces_unit {a b c d : Char} (h : hexUnit? a b c d = some n) (cs : List Char) :
    readPieces ('\\' :: 'u' :: a :: b :: c :: d :: cs) = (readPieces cs).map fun p => (.unit n :: p.1, p.2) := by
  rw [readPieces, h]
  rcases readPieces cs with _ | ⟨pieces, rest⟩ <;> rfl

theorem readPieces_plain (hquote : c ≠ '"') (hbackslash : c ≠ '\\') (hcontrol : ¬c.toNat < 0x20)
    (cs : List Char) : readPieces (c :: cs) = (readPieces cs).map fun p => (.char c :: p.1, p.2) := by
  rw [readPieces]
  · rw [if_neg hcontrol]
    rcases readPieces cs with _ | ⟨pieces, rest⟩ <;> rfl
  · exact hquote
  · exact fun _ _ _ _ _ heq _ => hbackslash heq
  · exact fun _ _ heq _ => hbackslash heq

/-- An escape that is not half of a surrogate pair spells a character of its own. -/
theorem assemble_unit (h : n < 0xd800) (pieces : List Piece) :
    assemble (.unit n :: pieces) = (assemble pieces).map (Char.ofNat n :: ·) := by
  have hhigh : ¬(0xd800 ≤ n ∧ n < 0xdc00) := by omega
  have hlow : ¬(0xdc00 ≤ n ∧ n < 0xe000) := by omega
  have hpair : ¬(0xd800 ≤ n ∧ n < 0xe000) := by omega
  rcases pieces with _ | ⟨_ | _, rest⟩ <;> simp [assemble, hhigh, hlow, hpair]

/-- A character has a short escape, or is a control character with a long one, or stands for itself. -/
theorem escapeChar_cases (c : Char) :
    (∃ e, escaped? e = some c ∧ escapeChar c = ['\\', e]) ∨
    (c.toNat < 0x20 ∧ escapeChar c = ['\\', 'u', '0', '0', hexChar (c.toNat / 16), hexChar (c.toNat % 16)]) ∨
    (c ≠ '"' ∧ c ≠ '\\' ∧ ¬c.toNat < 0x20 ∧ escapeChar c = [c]) := by
  fun_cases escapeChar c with
  | case8 _ _ _ _ _ _ _ hcontrol => exact Or.inr (Or.inl ⟨hcontrol, rfl⟩)
  | case9 hquote hbackslash _ _ _ _ _ hcontrol => exact Or.inr (Or.inr ⟨hquote, hbackslash, hcontrol, rfl⟩)
  | _ => exact Or.inl ⟨_, by subst_vars; rfl, rfl⟩

/-- Every character is written as one piece that spells it. -/
theorem readPieces_escapeChar (c : Char) (cs : List Char) :
    ∃ piece, readPieces (escapeChar c ++ cs) = (readPieces cs).map (fun p => (piece :: p.1, p.2)) ∧
      ∀ pieces, assemble (piece :: pieces) = (assemble pieces).map (c :: ·) := by
  rcases escapeChar_cases c with ⟨e, he, htext⟩ | ⟨hcontrol, htext⟩ | ⟨hquote, hbackslash, hcontrol, htext⟩ <;>
    rw [htext]
  · exact ⟨.char c, readPieces_escaped he cs, fun _ => rfl⟩
  · refine ⟨.unit c.toNat, readPieces_unit (hexUnit?_hexChar hcontrol) cs, fun pieces => ?_⟩
    rw [assemble_unit (by omega), Char.ofNat_toNat]
  · exact ⟨.char c, readPieces_plain hquote hbackslash hcontrol cs, fun _ => rfl⟩

theorem readPieces_flatMap_escapeChar (cs rest : List Char) :
    ∃ pieces, readPieces (cs.flatMap escapeChar ++ '"' :: rest) = some (pieces, rest) ∧
      assemble pieces = some cs := by
  induction cs with
  | nil => exact ⟨[], by rw [List.flatMap_nil, List.nil_append, readPieces], rfl⟩
  | cons c cs ih =>
    obtain ⟨pieces, hread, hassemble⟩ := ih
    obtain ⟨piece, hpiece, hspells⟩ := readPieces_escapeChar c (cs.flatMap escapeChar ++ '"' :: rest)
    refine ⟨piece :: pieces, ?_, ?_⟩
    · rw [List.flatMap_cons, List.append_assoc, hpiece, hread]
      rfl
    · rw [hspells, hassemble]
      rfl

/-- A string is read back after its opening quote. -/
theorem readString_escaped (s : String) (rest : List Char) :
    readString (s.toList.flatMap escapeChar ++ '"' :: rest) = some (some s, rest) := by
  obtain ⟨pieces, hread, hassemble⟩ := readPieces_flatMap_escapeChar s.toList rest
  rw [readString, hread]
  simp [hassemble]

end

/-! ### Numbers -/

/-- Nothing at the beginning of the text can go on with a number. -/
def EndsNumber : List Char → Prop
  | [] => True
  | c :: _ => c.isDigit = false ∧ c ≠ '.' ∧ c ≠ 'e' ∧ c ≠ 'E'

theorem endsNumber_cons {c : Char} {rest : List Char} (h : c ∈ [',', ']', '\x7d', '\n']) :
    EndsNumber (c :: rest) := by
  simp only [List.mem_cons, List.not_mem_nil, or_false] at h
  rcases h with rfl | rfl | rfl | rfl <;> exact ⟨rfl, by decide, by decide, by decide⟩

theorem endsNumber_of_blank {cs : List Char} (h : ∀ c ∈ cs, isBlank c = true) : EndsNumber cs := by
  rcases cs with _ | ⟨c, cs⟩
  · trivial
  have hblank : c ∈ [' ', '\t', '\n', '\r'] := by simpa [isBlank, or_assoc] using h c List.mem_cons_self
  simp only [List.mem_cons, List.not_mem_nil, or_false] at hblank
  rcases hblank with rfl | rfl | rfl | rfl <;> exact ⟨rfl, by decide, by decide, by decide⟩

section
variable {n : Nat} {rest : List Char}

/-- Only the number zero begins with the digit zero. -/
theorem eq_zero_of_head?_toDigits (h : (Nat.toDigits 10 n).head? = some '0') : n = 0 := by
  induction n using Nat.base_induction 10 (by decide) with
  | single m hm => simpa [Nat.toDigits_of_lt_base hm] using h
  | digit m k hk hm ih =>
    obtain ⟨d, digits, hcons⟩ := List.exists_cons_of_ne_nil (Nat.toDigits_ne_nil (n := m) (b := 10))
    rw [← Nat.toDigits_append_toDigits (by decide) hm hk, hcons] at h
    have := ih (hcons ▸ h)
    omega

theorem readDigits_append {digits : List Char} (hne : digits ≠ []) (hdigits : ∀ c ∈ digits, c.isDigit)
    (hrest : EndsNumber rest) : readDigits (digits ++ rest) = some (digits, rest) := by
  have hstop : rest.takeWhile Char.isDigit = [] ∧ rest.dropWhile Char.isDigit = rest := by
    rcases rest with _ | ⟨c, rest⟩
    · exact ⟨rfl, rfl⟩
    · rw [List.takeWhile_cons, List.dropWhile_cons, hrest.1]
      exact ⟨rfl, rfl⟩
  rw [readDigits, List.takeWhile_append_of_pos hdigits, List.dropWhile_append_of_pos hdigits, hstop.1, hstop.2,
    List.append_nil]
  rcases digits with _ | ⟨d, digits⟩
  · exact absurd rfl hne
  · rfl

/-- A whole number is read back, when what stands behind it is not part of a number. -/
theorem readNumeral_toDigits (n : Nat) (hrest : EndsNumber rest) :
    readNumeral false (Nat.toDigits 10 n ++ rest) = some (.ofNat n, rest) := by
  have hdigits : readDigits (Nat.toDigits 10 n ++ rest) = some (Nat.toDigits 10 n, rest) :=
    readDigits_append Nat.toDigits_ne_nil
      (fun _ hc => Nat.isDigit_of_mem_toDigits (by decide) (by decide) hc) hrest
  have hzero : ¬((Nat.toDigits 10 n).head? = some '0' ∧ (Nat.toDigits 10 n).length ≠ 1) := by
    rintro ⟨hhead, hlength⟩
    rw [eq_zero_of_head?_toDigits hhead] at hlength
    exact hlength rfl
  rw [readNumeral, hdigits]
  simp only [Option.bind_eq_bind, Option.bind_some, hzero, if_false]
  split
  · exact absurd rfl hrest.2.1
  · split
    · exact absurd rfl hrest.2.2.1
    · exact absurd rfl hrest.2.2.2
    · rfl

end

end KernelAudit.Json

namespace KernelAudit.Numeral

/-! ### What a number counts as -/

theorem pushWhole_cons {s : Scaled} {c : Char} {n : Nat} (h : s.push? c = some n) (rest : List Char) :
    pushWhole s (c :: rest) = pushWhole { s with significand := n } rest := by
  -- Deriving the equations of the recursion takes too long, so its one step is opened by hand.
  delta pushWhole
  simp only [pushWhole._f]
  rw [h]

/-- While there is room for what the digits come to, all of them are taken in. -/
theorem pushWhole_eq {digits : List Char} {k n : Nat} {e : Int} (hvalue : Nat.ofDigitChars 10 digits k = n)
    (hn : n < 2 ^ 64) : pushWhole ⟨k, e⟩ digits = ⟨n, e⟩ := by
  induction digits generalizing k with
  | nil =>
    rw [Nat.ofDigitChars_nil] at hvalue
    rw [hvalue]
    rfl
  | cons c rest ih =>
    have hnext : Nat.ofDigitChars 10 rest (k * 10 + digit c) = n := by
      rw [Nat.ofDigitChars_cons, Nat.mul_comm] at hvalue
      exact hvalue
    have hle : k * 10 + digit c ≤ n := by
      rw [← hnext, Nat.ofDigitChars_eq_ofDigitChars_zero]
      exact Nat.le_add_right_of_le (Nat.le_mul_of_pos_left _ (Nat.pow_pos (by decide)))
    have hpush : Scaled.push? ⟨k, e⟩ c = some (k * 10 + digit c) := if_pos (Nat.lt_of_le_of_lt hle hn)
    rw [pushWhole_cons hpush]
    exact ih hnext

theorem kind_ofNat {n : Nat} (h : n < 2 ^ 64) : (ofNat n).kind = .natural n := by
  have hpush : pushWhole ⟨0, 0⟩ (Nat.toDigits 10 n) = ⟨n, 0⟩ := pushWhole_eq Nat.ofDigitChars_ten_toDigits h
  simp [kind, ofNat, hpush]

end KernelAudit.Numeral
