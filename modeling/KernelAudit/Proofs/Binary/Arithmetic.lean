import KernelAudit.Proofs.Binary.Rounding
import KernelAudit.Proofs.Binary.Single

/-! Sums and products are the exact ones rounded once. What the standard leaves open is which of the bit
    patterns that are not numbers an operation without a numeric result answers with; everything else is
    determined, the sign of a zero included. So the results that it allows are those that are alike to the one
    computed here. -/

namespace KernelAudit.Single

variable {x y z : Single} {a : Bool} {m : Magnitude}

/-! ### What finite bit patterns stand for -/

/-- The number that a finite bit pattern stands for. -/
def toRat (x : Single) : ℚ := (if x.negative then -1 else 1) * BinaryFormat.single.value x.code

theorem abs_toRat (x : Single) : |x.toRat| = BinaryFormat.single.value x.code := by
  have hsign : |if x.negative then (-1 : ℚ) else 1| = 1 := by split <;> simp
  rw [toRat, abs_mul, hsign, one_mul, abs_of_nonneg (BinaryFormat.value_nonneg _)]

theorem toRat_eq_zero_iff : x.toRat = 0 ↔ x.code = 0 := by
  rw [← abs_eq_zero, abs_toRat, ← BinaryFormat.value_zero (f := .single)]
  exact (BinaryFormat.value_strictMono _).injective.eq_iff

theorem toRat_neg_iff (hx : x.code ≠ 0) : x.toRat < 0 ↔ x.negative = true := by
  have hpos : 0 < BinaryFormat.single.value x.code := by
    rw [← abs_toRat]
    exact abs_pos.mpr (mt toRat_eq_zero_iff.mp hx)
  rw [toRat]
  cases x.negative <;> simp [hpos, hpos.le]

/-! ### Rounding once -/

/-- The nearest magnitude of a number with its sign; an exact zero has the sign that is given. -/
structure Rounds (v : ℚ) (zeroSign : Bool) (z : Single) : Prop where
  nearest : BinaryFormat.single.Nearest |v| z.code
  sign : v ≠ 0 → (z.negative = true ↔ v < 0)
  sign_zero : v = 0 → z.negative = zeroSign

theorem two_le_precision : 2 ≤ BinaryFormat.single.precision := by decide

theorem ofMagnitude_le (m : Magnitude) : BinaryFormat.single.ofMagnitude m ≤ BinaryFormat.single.infinity :=
  (BinaryFormat.nearest_ofMagnitude two_le_precision m).le_infinity

theorem ofMagnitude_of_zero (h : m.significand = 0) : BinaryFormat.single.ofMagnitude m = 0 := by
  rw [BinaryFormat.ofMagnitude, Magnitude.ratio, h, Nat.zero_mul, BinaryFormat.ofRatio, if_pos rfl]

section
variable {v : ℚ} {zeroSign negative : Bool}

theorem rounds_iff (hv : |v| = m.toRat) (hsign : v ≠ 0 → (negative = true ↔ v < 0))
    (hzero : v = 0 → negative = zeroSign) :
    Rounds v zeroSign z ↔ z.Alike (ofCode negative (BinaryFormat.single.ofMagnitude m)) := by
  have hle := ofMagnitude_le m
  rw [alike_iff_of_number (isNaN_ofCode negative hle), eq_ofCode_iff negative (lt_of_le_of_lt hle (by decide)),
    ← BinaryFormat.nearest_iff two_le_precision, ← hv]
  constructor
  · intro h
    refine ⟨?_, h.nearest⟩
    rcases eq_or_ne v 0 with hv0 | hv0
    · rw [h.sign_zero hv0, hzero hv0]
    · exact Bool.eq_iff_iff.mpr ((h.sign hv0).trans (hsign hv0).symm)
  · rintro ⟨rfl, hnearest⟩
    exact ⟨hnearest, hsign, hzero⟩

theorem rounds_zero_iff : Rounds 0 zeroSign z ↔ z.Alike (ofCode zeroSign 0) := by
  have hv : |(0 : ℚ)| = Magnitude.toRat ⟨0, 0⟩ := by simp [Magnitude.toRat]
  rw [rounds_iff hv (fun h => absurd rfl h) fun _ => rfl, ofMagnitude_of_zero rfl]

theorem rounds_toRat_iff (hx : x.code ≠ 0) (hfinite : x.code < BinaryFormat.single.infinity) :
    Rounds x.toRat zeroSign z ↔ z.Alike x := by
  have hself : ofCode x.negative x.code = x := ((eq_ofCode_iff _ x.code_lt).mpr ⟨rfl, rfl⟩).symm
  rw [rounds_iff (m := BinaryFormat.single.decode x.code) x.abs_toRat (fun _ => (toRat_neg_iff hx).symm)
    fun h => absurd (toRat_eq_zero_iff.mp h) hx, BinaryFormat.ofMagnitude_decode two_le_precision hfinite.le, hself]

/-- A whole multiple of a power of two. -/
theorem rounds_ofSigned_iff {s e : ℤ} (hzero : s = 0 → zeroSign = false) :
    Rounds (s * 2 ^ e) zeroSign z ↔ z.Alike (ofSigned s e) := by
  have hunit := two_zpow_pos e
  refine rounds_iff ?_ (fun _ => ?_) fun h => ?_
  · rw [abs_mul, abs_of_pos hunit, Magnitude.toRat, Nat.cast_natAbs, Int.cast_abs]
  · rw [decide_eq_true_iff, ← Int.cast_lt_zero (R := ℚ)]
    exact ⟨fun h => mul_neg_of_neg_of_pos h hunit, fun h => neg_of_mul_neg_left h hunit.le⟩
  · have hs : s = 0 := by
      rcases mul_eq_zero.mp h with hs | hs
      · exact Int.cast_eq_zero.mp hs
      · exact absurd hs hunit.ne'
    rw [hs, hzero hs]
    rfl

end

/-! ### Exact results -/

theorem multiple_mul {e : ℤ} (h : e ≤ m.exponent) : (m.multiple e : ℚ) * 2 ^ e = m.toRat := by
  obtain ⟨k, hk⟩ := Int.eq_ofNat_of_zero_le (Int.sub_nonneg_of_le h)
  have hexp : m.exponent = (k : ℤ) + e := by omega
  rw [Magnitude.multiple, hk, Int.toNat_natCast, Magnitude.toRat, hexp, zpow_add₀ two_ne_zero, zpow_natCast]
  push_cast
  ring

theorem signedOver_mul (hx : x.value = .finite a m) {e : ℤ} (h : e ≤ m.exponent) :
    (signedOver a m e : ℚ) * 2 ^ e = x.toRat := by
  obtain ⟨-, rfl, rfl⟩ := value_eq_finite_iff.mp hx
  rw [signedOver, toRat, BinaryFormat.value, ← multiple_mul h]
  split
  · push_cast
    ring
  · push_cast
    ring

theorem rounds_sum_iff {n : Magnitude} {b : Bool} (hx : x.value = .finite a m) (hy : y.value = .finite b n) :
    Rounds (x.toRat + y.toRat) (x.negative && y.negative) z ↔
      z.Alike (ofSigned (signedOver a m (min m.exponent n.exponent) + signedOver b n (min m.exponent n.exponent))
        (min m.exponent n.exponent)) := by
  have hsum : x.toRat + y.toRat =
      ((signedOver a m (min m.exponent n.exponent) + signedOver b n (min m.exponent n.exponent) : ℤ) : ℚ) *
        2 ^ min m.exponent n.exponent := by
    rw [Int.cast_add, add_mul, signedOver_mul hx (min_le_left _ _), signedOver_mul hy (min_le_right _ _)]
  rw [hsum]
  refine rounds_ofSigned_iff fun hzero => ?_
  -- two numbers whose sum is zero have different signs
  rw [hzero, Int.cast_zero, zero_mul] at hsum
  rw [← Bool.not_eq_true, Bool.and_eq_true, ← toRat_neg_iff (value_eq_finite_iff.mp hx).1.1,
    ← toRat_neg_iff (value_eq_finite_iff.mp hy).1.1]
  rintro ⟨hxneg, hyneg⟩
  linarith

theorem rounds_product_iff : Rounds (x.toRat * y.toRat) (x.negative != y.negative) z ↔
    z.Alike (ofCode (x.negative != y.negative) (BinaryFormat.single.ofMagnitude
      ((BinaryFormat.single.decode x.code).mul (BinaryFormat.single.decode y.code)))) := by
  refine rounds_iff ?_ (fun h => ?_) fun _ => rfl
  · rw [abs_mul, abs_toRat, abs_toRat, Magnitude.toRat_mul]
    rfl
  · have hx := left_ne_zero_of_mul h
    have hy := right_ne_zero_of_mul h
    have hxneg := toRat_neg_iff (mt toRat_eq_zero_iff.mpr hx)
    have hyneg := toRat_neg_iff (mt toRat_eq_zero_iff.mpr hy)
    rw [mul_neg_iff, hxneg, hyneg, ← hx.symm.le_iff_lt, ← hy.symm.le_iff_lt, ← not_lt, ← not_lt, hxneg, hyneg]
    cases x.negative <;> cases y.negative <;> simp

theorem significand_mul_eq_zero (h : x.code = 0 ∨ y.code = 0) :
    ((BinaryFormat.single.decode x.code).mul (BinaryFormat.single.decode y.code)).significand = 0 := by
  have hzero : (BinaryFormat.single.decode 0).significand = 0 := rfl
  rcases h with h | h
  · rw [h, Magnitude.mul, hzero, Nat.zero_mul]
  · rw [h, Magnitude.mul, hzero, Nat.mul_zero]

/-! ### The results of an operation -/

/-- The results that are allowed for a sum: infinity absorbs everything but what is not a number and infinity of
    the other sign, and a sum of finite numbers is rounded once. It is the negative zero only if both are. -/
def IsSum (x y z : Single) : Prop :=
  match x.value, y.value with
  | .nan, _ | _, .nan => z.isNaN = true
  | .infinity a, .infinity b => if a = b then z.value = .infinity a else z.isNaN = true
  | .infinity a, _ | _, .infinity a => z.value = .infinity a
  | _, _ => Rounds (x.toRat + y.toRat) (x.negative && y.negative) z

/-- The results that are allowed for a product: infinity absorbs everything but what is not a number and zero,
    and a product of finite numbers is rounded once. The signs are multiplied, also those of zeros. -/
def IsProduct (x y z : Single) : Prop :=
  match x.value, y.value with
  | .nan, _ | _, .nan => z.isNaN = true
  | .infinity _, .zero _ | .zero _, .infinity _ => z.isNaN = true
  | .infinity _, _ | _, .infinity _ => z.value = .infinity (x.negative != y.negative)
  | _, _ => Rounds (x.toRat * y.toRat) (x.negative != y.negative) z

theorem add_def (x y : Single) : x + y = add x y := rfl

theorem mul_def (x y : Single) : x * y = mul x y := rfl

theorem isSum_iff : IsSum x y z ↔ z.Alike (x + y) := by
  rw [add_def]
  cases hx : x.value <;> cases hy : y.value <;> simp only [IsSum, add, hx, hy]
  case nan.nan | nan.infinity | nan.zero | nan.finite | infinity.nan | zero.nan | finite.nan =>
    exact (alike_iff_of_isNaN isNaN_nan).symm
  case infinity.infinity =>
    split
    · exact (alike_iff_of_infinity hx).symm
    · exact (alike_iff_of_isNaN isNaN_nan).symm
  case infinity.zero | infinity.finite => exact (alike_iff_of_infinity hx).symm
  case zero.infinity | finite.infinity => exact (alike_iff_of_infinity hy).symm
  case zero.zero =>
    obtain ⟨hxzero, rfl⟩ := value_eq_zero_iff.mp hx
    obtain ⟨hyzero, rfl⟩ := value_eq_zero_iff.mp hy
    rw [toRat_eq_zero_iff.mpr hxzero, toRat_eq_zero_iff.mpr hyzero, add_zero]
    exact rounds_zero_iff
  case zero.finite =>
    obtain ⟨hxzero, -⟩ := value_eq_zero_iff.mp hx
    obtain ⟨⟨hne, hfinite⟩, -⟩ := value_eq_finite_iff.mp hy
    rw [toRat_eq_zero_iff.mpr hxzero, zero_add]
    exact rounds_toRat_iff hne hfinite
  case finite.zero =>
    obtain ⟨⟨hne, hfinite⟩, -⟩ := value_eq_finite_iff.mp hx
    obtain ⟨hyzero, -⟩ := value_eq_zero_iff.mp hy
    rw [toRat_eq_zero_iff.mpr hyzero, add_zero]
    exact rounds_toRat_iff hne hfinite
  case finite.finite => exact rounds_sum_iff hx hy

theorem isProduct_iff : IsProduct x y z ↔ z.Alike (x * y) := by
  rw [mul_def]
  cases hx : x.value <;> cases hy : y.value <;> simp only [IsProduct, mul, hx, hy]
  case nan.nan | nan.infinity | nan.zero | nan.finite | infinity.nan | zero.nan | finite.nan |
      infinity.zero | zero.infinity =>
    exact (alike_iff_of_isNaN isNaN_nan).symm
  case infinity.infinity =>
    obtain ⟨-, rfl⟩ := value_eq_infinity_iff.mp hx
    obtain ⟨-, rfl⟩ := value_eq_infinity_iff.mp hy
    exact (alike_iff_of_infinity (value_ofCode_infinity _)).symm
  case infinity.finite =>
    obtain ⟨-, rfl⟩ := value_eq_infinity_iff.mp hx
    obtain ⟨-, rfl, -⟩ := value_eq_finite_iff.mp hy
    exact (alike_iff_of_infinity (value_ofCode_infinity _)).symm
  case finite.infinity =>
    obtain ⟨-, rfl, -⟩ := value_eq_finite_iff.mp hx
    obtain ⟨-, rfl⟩ := value_eq_infinity_iff.mp hy
    exact (alike_iff_of_infinity (value_ofCode_infinity _)).symm
  case zero.zero =>
    obtain ⟨hxzero, rfl⟩ := value_eq_zero_iff.mp hx
    obtain ⟨-, rfl⟩ := value_eq_zero_iff.mp hy
    rw [rounds_product_iff, ofMagnitude_of_zero (significand_mul_eq_zero (Or.inl hxzero))]
  case zero.finite =>
    obtain ⟨hxzero, rfl⟩ := value_eq_zero_iff.mp hx
    obtain ⟨-, rfl, -⟩ := value_eq_finite_iff.mp hy
    rw [rounds_product_iff, ofMagnitude_of_zero (significand_mul_eq_zero (Or.inl hxzero))]
  case finite.zero =>
    obtain ⟨-, rfl, -⟩ := value_eq_finite_iff.mp hx
    obtain ⟨hyzero, rfl⟩ := value_eq_zero_iff.mp hy
    rw [rounds_product_iff, ofMagnitude_of_zero (significand_mul_eq_zero (Or.inr hyzero))]
  case finite.finite =>
    obtain ⟨-, rfl, rfl⟩ := value_eq_finite_iff.mp hx
    obtain ⟨-, rfl, rfl⟩ := value_eq_finite_iff.mp hy
    exact rounds_product_iff

/-! ### Operations on bit patterns that mean the same -/

theorem isNaN_add (h : x.isNaN = true ∨ y.isNaN = true) : (x + y).isNaN = true := by
  rw [isNaN_iff, isNaN_iff] at h
  rw [add_def]
  rcases h with h | h
  · simp only [add, h, isNaN_nan]
  · cases hx : x.value <;> simp only [add, hx, h, isNaN_nan]

theorem isNaN_mul (h : x.isNaN = true ∨ y.isNaN = true) : (x * y).isNaN = true := by
  rw [isNaN_iff, isNaN_iff] at h
  rw [mul_def]
  rcases h with h | h
  · simp only [mul, h, isNaN_nan]
  · cases hx : x.value <;> simp only [mul, hx, h, isNaN_nan]

section
variable {x' y' : Single}

/-- An operation that gives no number where an operand is none does not tell alike operands apart. -/
theorem Alike.map₂ {op : Single → Single → Single}
    (hop : ∀ {x y : Single}, x.isNaN = true ∨ y.isNaN = true → (op x y).isNaN = true)
    (hx : x.Alike x') (hy : y.Alike y') : (op x y).Alike (op x' y') := by
  rcases hx with hx | ⟨hx, hx'⟩
  · rcases hy with hy | ⟨hy, hy'⟩
    · rw [eq_of_bits hx, eq_of_bits hy]
      exact .refl _
    · exact Or.inr ⟨hop (Or.inr hy), hop (Or.inr hy')⟩
  · exact Or.inr ⟨hop (Or.inl hx), hop (Or.inl hx')⟩

theorem Alike.add (hx : x.Alike x') (hy : y.Alike y') : (x + y).Alike (x' + y') := .map₂ isNaN_add hx hy

theorem Alike.mul (hx : x.Alike x') (hy : y.Alike y') : (x * y).Alike (x' * y') := .map₂ isNaN_mul hx hy

end

end KernelAudit.Single
