import KernelAudit.Binary.Single

/-! What the bits of a number say. A sign and a code make a bit pattern, and there is no other with the two; the
    code says which kind of value it is. Among the bit patterns that are not numbers no operation tells one
    from another, so two of them are alike. -/

namespace KernelAudit.Single

variable {x y z : Single} {a : Bool} {m : Magnitude}

/-! ### Signs and codes -/

theorem code_lt (x : Single) : x.code < 0x80000000 := Nat.mod_lt _ (by decide)

theorem toNat_bits (x : Single) : x.bits.toNat = x.code + if x.negative then 0x80000000 else 0 := by
  have hlt := x.bits.toNat_lt
  have hdiv := Nat.div_add_mod x.bits.toNat 0x80000000
  rw [code, negative]
  simp only [decide_eq_true_eq]
  split <;> omega

theorem ext_code (hcode : x.code = y.code) (hnegative : x.negative = y.negative) : x = y := by
  obtain ⟨bits⟩ := x
  obtain ⟨bits'⟩ := y
  have h := toNat_bits ⟨bits⟩
  rw [hcode, hnegative, ← toNat_bits] at h
  exact congrArg Single.mk (UInt32.toNat_inj.mp h)

section
variable {c : Nat} (negative : Bool)

theorem toNat_bits_ofCode (hc : c < 0x80000000) :
    (ofCode negative c).bits.toNat = c + if negative then 0x80000000 else 0 := by
  rw [ofCode, UInt32.toNat_ofNat']
  refine Nat.mod_eq_of_lt ?_
  split <;> omega

theorem code_ofCode (hc : c < 0x80000000) : (ofCode negative c).code = c := by
  rw [code, toNat_bits_ofCode negative hc]
  split <;> omega

theorem negative_ofCode (hc : c < 0x80000000) : (ofCode negative c).negative = negative := by
  rw [Single.negative, toNat_bits_ofCode negative hc]
  cases negative
  · exact decide_eq_false (by rw [if_neg Bool.false_ne_true]; omega)
  · exact decide_eq_true (by rw [if_pos rfl]; omega)

theorem eq_ofCode_iff (hc : c < 0x80000000) : x = ofCode negative c ↔ x.negative = negative ∧ x.code = c := by
  constructor
  · rintro rfl
    exact ⟨negative_ofCode _ hc, code_ofCode _ hc⟩
  · rintro ⟨rfl, rfl⟩
    exact ext_code (code_ofCode _ hc).symm (negative_ofCode _ hc).symm

end

/-! ### Kinds of values -/

theorem value_eq_zero_iff : x.value = .zero a ↔ x.code = 0 ∧ x.negative = a := by
  rw [value]
  split
  · next h => simp [h]
  · next h =>
    refine iff_of_false ?_ fun h' => h h'.1
    split
    · nofun
    · split <;> nofun

theorem value_eq_infinity_iff : x.value = .infinity a ↔ x.code = BinaryFormat.single.infinity ∧ x.negative = a := by
  rw [value]
  split
  · next h =>
    refine iff_of_false nofun fun h' => ?_
    rw [h] at h'
    exact absurd h'.1 (by decide)
  · split
    · next h => exact iff_of_false nofun fun h' => absurd h'.1 (Nat.ne_of_lt h)
    · split
      · next h => simp [h]
      · next h => exact iff_of_false nofun fun h' => h h'.1

theorem value_eq_finite_iff : x.value = .finite a m ↔
    (x.code ≠ 0 ∧ x.code < BinaryFormat.single.infinity) ∧ x.negative = a ∧ BinaryFormat.single.decode x.code = m := by
  rw [value]
  split
  · next h => exact iff_of_false nofun fun h' => h'.1.1 h
  · next hzero =>
    split
    · next h => simp [hzero, h]
    · next h =>
      refine iff_of_false ?_ fun h' => h h'.1.2
      split <;> nofun

theorem value_ofCode_infinity (negative : Bool) :
    (ofCode negative BinaryFormat.single.infinity).value = .infinity negative := by
  have hlt : BinaryFormat.single.infinity < 0x80000000 := by decide
  exact value_eq_infinity_iff.mpr ⟨code_ofCode _ hlt, negative_ofCode _ hlt⟩

theorem isNaN_iff : x.isNaN = true ↔ x.value = .nan := decide_eq_true_iff

theorem isNaN_nan : nan.isNaN = true := by decide

theorem isNaN_ofCode {c : Nat} (negative : Bool) (hc : c ≤ BinaryFormat.single.infinity) :
    (ofCode negative c).isNaN = false := by
  have hlt : c < 0x80000000 := Nat.lt_of_le_of_lt hc (by decide)
  rw [← Bool.not_eq_true, isNaN_iff, value, code_ofCode negative hlt]
  split
  · nofun
  · split
    · nofun
    · rw [if_pos (by omega)]
      nofun

/-! ### Bit patterns that mean the same -/

/-- The same bits, or two bit patterns neither of which is a number. -/
def Alike (x y : Single) : Prop := x.bits = y.bits ∨ x.isNaN = true ∧ y.isNaN = true

theorem eq_of_bits (h : x.bits = y.bits) : x = y := by
  cases x
  cases y
  exact congrArg Single.mk h

namespace Alike

theorem refl (x : Single) : x.Alike x := Or.inl rfl

theorem isNaN_eq (h : x.Alike y) : x.isNaN = y.isNaN := by
  rcases h with h | ⟨hx, hy⟩
  · rw [eq_of_bits h]
  · rw [hx, hy]

theorem trans (h : x.Alike y) (h' : y.Alike z) : x.Alike z := by
  rcases h with h | ⟨hx, hy⟩
  · rwa [eq_of_bits h]
  · exact Or.inr ⟨hx, by rwa [← h'.isNaN_eq]⟩

end Alike

theorem alike_iff_of_isNaN (hy : y.isNaN = true) : x.Alike y ↔ x.isNaN = true :=
  ⟨fun h => h.isNaN_eq.trans hy, fun hx => Or.inr ⟨hx, hy⟩⟩

theorem alike_iff_of_number (hy : y.isNaN = false) : x.Alike y ↔ x = y := by
  constructor
  · rintro (h | ⟨-, h⟩)
    · exact eq_of_bits h
    · rw [hy] at h
      cases h
  · rintro rfl
    exact .refl x

theorem alike_iff_of_infinity (hy : y.value = .infinity a) : x.Alike y ↔ x.value = .infinity a := by
  have hnumber : y.isNaN = false := by
    rw [← Bool.not_eq_true, isNaN_iff, hy]
    nofun
  rw [alike_iff_of_number hnumber, value_eq_infinity_iff]
  obtain ⟨hcode, hnegative⟩ := value_eq_infinity_iff.mp hy
  constructor
  · rintro rfl
    exact ⟨hcode, hnegative⟩
  · rintro ⟨hcode', hnegative'⟩
    exact ext_code (hcode'.trans hcode.symm) (hnegative'.trans hnegative.symm)

end KernelAudit.Single
