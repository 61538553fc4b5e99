import KernelAudit.Binary.Format
import Mathlib.Algebra.Order.Group.Abs
import Mathlib.Algebra.Order.Ring.Rat
import Mathlib.Data.Rat.Cast.Order
import Mathlib.Order.Monotone.Basic
import Mathlib.Tactic.Linarith
import Mathlib.Tactic.Positivity
import Mathlib.Tactic.Ring

/-! Rounding is to the nearest, a tie to the even code. What a code stands for grows with the code, by steps
    that are as wide as the last place there, so a number lies between two neighbours and the only question is
    which of them is nearer. The code of infinity takes part as the power of two that comes next, which is how
    an overflow is told. -/

namespace KernelAudit

/-- The magnitude as a number. -/
def Magnitude.toRat (m : Magnitude) : ℚ := m.significand * 2 ^ m.exponent

/-! ### Powers of two -/

theorem two_zpow_eq_div (e : ℤ) : (2 : ℚ) ^ e = 2 ^ e.toNat / 2 ^ (-e).toNat := by
  rcases Int.le_total 0 e with h | h
  · obtain ⟨k, rfl⟩ := Int.eq_ofNat_of_zero_le h
    simp
  · obtain ⟨k, hk⟩ := Int.eq_ofNat_of_zero_le (Int.neg_nonneg_of_nonpos h)
    obtain rfl : e = -(k : ℤ) := by omega
    simp

theorem two_zpow_pos (e : ℤ) : (0 : ℚ) < 2 ^ e := zpow_pos two_pos e

namespace Magnitude

theorem toRat_nonneg (m : Magnitude) : 0 ≤ m.toRat :=
  mul_nonneg (Nat.cast_nonneg _) (two_zpow_pos _).le

theorem toRat_mul (m n : Magnitude) : (m.mul n).toRat = m.toRat * n.toRat := by
  rw [toRat, toRat, toRat, mul, Nat.cast_mul, zpow_add₀ two_ne_zero]
  ring

theorem toRat_eq_ratio (m : Magnitude) : m.toRat = (m.ratio.1 : ℚ) / m.ratio.2 := by
  rw [toRat, ratio, two_zpow_eq_div]
  push_cast
  rw [mul_div_assoc]

theorem ratio_pos (m : Magnitude) : 0 < m.ratio.2 := Nat.two_pow_pos _

end Magnitude

/-! ### Codes -/

namespace BinaryFormat
variable {f : BinaryFormat}

/-- What a code stands for; the code of infinity and those above it go on like the others. -/
def value (f : BinaryFormat) (code : Nat) : ℚ := (f.decode code).toRat

theorem binade_pos : 0 < f.binade := Nat.two_pow_pos _

theorem even_binade (hf : 2 ≤ f.precision) : Even f.binade :=
  Nat.even_pow.mpr ⟨even_two, by omega⟩

/-- A binade is a grid, and the first code of the next one is its last point. -/
theorem value_grid {k q : Nat} (hnormal : k = 0 ∨ f.binade ≤ q) (hq : q ≤ 2 * f.binade) :
    f.value (k * f.binade + q) = q * 2 ^ (f.minExponent + k) := by
  have hpos := f.binade_pos
  rw [value, decode]
  split
  · next hlt =>
    -- below the first binade the grid is the one of the smallest exponent
    obtain rfl : k = 0 := by
      rcases hnormal with rfl | hle
      · rfl
      · omega
    simp [Magnitude.toRat]
  · next hge =>
    rcases Nat.lt_or_eq_of_le hq with hlt | rfl
    · have hle : f.binade ≤ q := by
        rcases hnormal with rfl | hle
        · omega
        · exact hle
      obtain ⟨r, rfl⟩ := Nat.exists_eq_add_of_le hle
      have hcode : k * f.binade + (f.binade + r) = r + f.binade * (k + 1) := by ring
      have hr : r < f.binade := by omega
      rw [hcode, Nat.add_mul_mod_self_left, Nat.add_mul_div_left _ _ hpos, Nat.mod_eq_of_lt hr,
        Nat.div_eq_of_lt hr, Magnitude.toRat]
      simp
    · have hcode : k * f.binade + 2 * f.binade = f.binade * (k + 2) := by ring
      rw [hcode, Nat.mul_mod_right, Nat.mul_div_cancel_left _ hpos, Magnitude.toRat]
      have hexp : f.minExponent + ((k + 2 - 1 : Nat) : ℤ) = (f.minExponent + k) + 1 := by
        push_cast
        omega
      dsimp only
      rw [hexp, zpow_add_one₀ two_ne_zero]
      push_cast
      ring

/-- For thirty-two bits infinity takes part as 2^128. -/
example : BinaryFormat.single.decode BinaryFormat.single.infinity = ⟨2 ^ 23, 105⟩ := by decide

/-- Each code lies on the grid of its binade, before the last point. -/
theorem exists_grid (code : Nat) :
    ∃ k q, code = k * f.binade + q ∧ (k = 0 ∨ f.binade ≤ q) ∧ q < 2 * f.binade := by
  have hpos := f.binade_pos
  rcases Nat.lt_or_ge code f.binade with hlt | hge
  · exact ⟨0, code, by omega, Or.inl rfl, by omega⟩
  · have hmod := Nat.mod_lt code hpos
    have hdiv : 1 ≤ code / f.binade := Nat.div_pos hge hpos
    have hsplit := Nat.div_add_mod code f.binade
    obtain ⟨k, hk⟩ := Nat.exists_eq_add_of_le hdiv
    refine ⟨k, f.binade + code % f.binade, ?_, Or.inr (Nat.le_add_right _ _), by omega⟩
    rw [hk] at hsplit
    rw [← hsplit, Nat.mul_add_mod, Nat.mod_mod]
    ring

/-- From one point of a grid to the next it is one last place. -/
theorem value_succ_grid {k q : Nat} (hnormal : k = 0 ∨ f.binade ≤ q) (hq : q < 2 * f.binade) :
    f.value (k * f.binade + q + 1) = f.value (k * f.binade + q) + 2 ^ (f.minExponent + k) := by
  rw [value_grid hnormal hq.le, Nat.add_assoc, value_grid (hnormal.imp_right fun h => Nat.le_succ_of_le h) hq]
  push_cast
  ring

theorem value_strictMono (f : BinaryFormat) : StrictMono f.value := by
  refine strictMono_nat_of_lt_succ fun code => ?_
  obtain ⟨k, q, rfl, hnormal, hq⟩ := f.exists_grid code
  rw [value_succ_grid hnormal hq]
  exact lt_add_of_pos_right _ (two_zpow_pos _)

theorem value_zero : f.value 0 = 0 := by
  have h := value_grid (f := f) (k := 0) (q := 0) (Or.inl rfl) (Nat.zero_le _)
  simpa using h

theorem value_nonneg (code : Nat) : 0 ≤ f.value code := Magnitude.toRat_nonneg _

/-! ### The nearest code -/

/-- Of the codes up to infinity none is nearer, and if another is as near, the code is even. -/
structure Nearest (f : BinaryFormat) (v : ℚ) (code : Nat) : Prop where
  le_infinity : code ≤ f.infinity
  le_dist : ∀ other ≤ f.infinity, |v - f.value code| ≤ |v - f.value other|
  even_of_tie : ∀ other ≤ f.infinity, other ≠ code → |v - f.value other| = |v - f.value code| → Even code

section
variable {v : ℚ} {code code' : Nat}

/-- Of two codes with a tie between them the one in the middle would be nearer, and the one behind an
    even code is odd. -/
theorem Nearest.not_lt (h : f.Nearest v code) (h' : f.Nearest v code') : ¬code < code' := by
  intro hlt
  have hdist : |v - f.value code'| = |v - f.value code| :=
    le_antisymm (h'.le_dist _ h.le_infinity) (h.le_dist _ h'.le_infinity)
  have heven := h.even_of_tie _ h'.le_infinity hlt.ne' hdist
  have heven' := h'.even_of_tie _ h.le_infinity hlt.ne hdist.symm
  have hnext : code + 1 < code' := by
    refine lt_of_le_of_ne hlt fun heq => ?_
    rw [← heq, Nat.even_add_one] at heven'
    exact heven' heven
  have hlow := f.value_strictMono (Nat.lt_succ_self code)
  have hhigh := f.value_strictMono hnext
  have hnear := h.le_dist (code + 1) (by have := h'.le_infinity; omega)
  -- the two are the same distance away on both sides
  rcases abs_eq_abs.mp hdist with heq | heq
  · exact absurd (f.value_strictMono hlt) (by linarith)
  · have hleft : v - f.value code = (f.value code' - f.value code) / 2 := by linarith
    rw [hleft, abs_of_nonneg (by linarith)] at hnear
    rcases le_abs.mp hnear with hle | hle <;> linarith

theorem Nearest.unique (h : f.Nearest v code) (h' : f.Nearest v code') : code = code' :=
  Nat.le_antisymm (Nat.le_of_not_lt (h'.not_lt h)) (Nat.le_of_not_lt (h.not_lt h'))

theorem nearest_value (h : code ≤ f.infinity) : f.Nearest (f.value code) code := by
  refine ⟨h, fun other _ => ?_, fun other _ hne htie => ?_⟩
  · rw [sub_self, abs_zero]
    exact abs_nonneg _
  · rw [sub_self, abs_zero, abs_eq_zero, sub_eq_zero] at htie
    exact absurd (f.value_strictMono.injective htie).symm hne

/-- What is as large as the power of two that infinity stands for is nearest to it. -/
theorem nearest_infinity (h : f.value f.infinity ≤ v) : f.Nearest v f.infinity := by
  have hclose : ∀ other ≤ f.infinity, other ≠ f.infinity → |v - f.value f.infinity| < |v - f.value other| := by
    intro other hother hne
    have hlt := f.value_strictMono (lt_of_le_of_ne hother hne)
    rw [abs_of_nonneg (by linarith), abs_of_nonneg (by linarith)]
    linarith
  refine ⟨le_refl _, fun other hother => ?_, fun other hother hne htie => ?_⟩
  · rcases eq_or_ne other f.infinity with rfl | hne
    · exact le_refl _
    · exact (hclose other hother hne).le
  · exact absurd htie (hclose other hother hne).ne'

/-- Codes further down are no nearer to what lies above, -/
theorem sub_value_le_dist (h : code' ≤ code) : v - f.value code ≤ |v - f.value code'| :=
  (sub_le_sub_left (f.value_strictMono.monotone h) v).trans (le_abs_self _)

/-- and codes further up are no nearer to what lies below. -/
theorem value_sub_le_dist (h : code ≤ code') : f.value code - v ≤ |v - f.value code'| := by
  rw [abs_sub_comm]
  exact (sub_le_sub_right (f.value_strictMono.monotone h) v).trans (le_abs_self _)

/-- Between two neighbours the lower one is nearest up to their middle, -/
theorem nearest_lower (hinf : code < f.infinity) (hlow : f.value code ≤ v)
    (hmiddle : 2 * v ≤ f.value code + f.value (code + 1))
    (htie : 2 * v = f.value code + f.value (code + 1) → Even code) : f.Nearest v code := by
  have hdist : |v - f.value code| = v - f.value code := abs_of_nonneg (by linarith)
  refine ⟨hinf.le, fun other _ => ?_, fun other _ hne heq => ?_⟩
  · rw [hdist]
    rcases Nat.lt_or_ge code other with hlt | hle
    · have := value_sub_le_dist (f := f) (v := v) (Nat.succ_le_of_lt hlt)
      linarith
    · exact sub_value_le_dist hle
  · rw [hdist] at heq
    rcases Nat.lt_or_gt_of_ne hne with hlt | hlt
    · have := f.value_strictMono hlt
      have := sub_value_le_dist (f := f) (v := v) (Nat.le_refl other)
      linarith
    · have := value_sub_le_dist (f := f) (v := v) (Nat.succ_le_of_lt hlt)
      exact htie (by linarith)

/-- and from there on the upper one. -/
theorem nearest_upper (hinf : code < f.infinity) (hhigh : v ≤ f.value (code + 1))
    (hmiddle : f.value code + f.value (code + 1) ≤ 2 * v)
    (htie : f.value code + f.value (code + 1) = 2 * v → Even (code + 1)) : f.Nearest v (code + 1) := by
  have hdist : |v - f.value (code + 1)| = f.value (code + 1) - v := by
    rw [abs_sub_comm]
    exact abs_of_nonneg (by linarith)
  refine ⟨hinf, fun other _ => ?_, fun other _ hne heq => ?_⟩
  · rw [hdist]
    rcases Nat.lt_or_ge code other with hlt | hle
    · exact value_sub_le_dist hlt
    · have := sub_value_le_dist (f := f) (v := v) hle
      linarith
  · rw [hdist] at heq
    rcases Nat.lt_or_gt_of_ne hne with hlt | hlt
    · have := sub_value_le_dist (f := f) (v := v) (Nat.le_of_lt_succ hlt)
      exact htie (by linarith)
    · have := f.value_strictMono hlt
      have := value_sub_le_dist (f := f) (v := v) (Nat.le_refl other)
      linarith

end

end BinaryFormat

/-! ### Quotients -/

/-- The rounded quotient is one of the two whole numbers around the quotient, and the nearer one. -/
theorem quotientToEven_cases (n d : Nat) :
    quotientToEven n d = n / d ∧ 2 * (n % d) ≤ d ∧ (2 * (n % d) = d → Even (n / d)) ∨
      quotientToEven n d = n / d + 1 ∧ d ≤ 2 * (n % d) ∧ (2 * (n % d) = d → Even (n / d + 1)) := by
  rw [quotientToEven]
  split
  · next h => exact Or.inl ⟨rfl, by omega, fun heq => Nat.even_iff.mpr (by omega)⟩
  · next h => exact Or.inr ⟨rfl, by omega, fun heq => Nat.even_iff.mpr (by omega)⟩

namespace BinaryFormat
variable {f : BinaryFormat}

section
variable {num den : Nat}

theorem two_pow_log2_le (h : num ≠ 0) : (2 : ℚ) ^ (num.log2 : ℤ) ≤ num ∧ (num : ℚ) < 2 ^ ((num.log2 : ℤ) + 1) := by
  rw [zpow_add_one₀ two_ne_zero, zpow_natCast]
  have hlow := Nat.log2_self_le h
  have hhigh := Nat.lt_log2_self (n := num)
  rw [Nat.pow_succ] at hhigh
  exact ⟨by exact_mod_cast hlow, by exact_mod_cast hhigh⟩

/-- Over a power of two the numerator or the denominator is multiplied, so both stay whole. -/
theorem div_two_zpow (num den : Nat) (e : ℤ) :
    ((num * 2 ^ (-e).toNat : Nat) : ℚ) / ((den * 2 ^ e.toNat : Nat) : ℚ) = (num : ℚ) / den / 2 ^ e := by
  rw [two_zpow_eq_div, div_div_eq_mul_div, div_mul_eq_mul_div, div_div]
  push_cast
  rfl

/-- The lengths of numerator and denominator give the leading power of two of the quotient up to one. -/
theorem exists_leading (f : BinaryFormat) (hnum : num ≠ 0) (hden : den ≠ 0) :
    ∃ top : ℤ, f.lastPlace num den = max f.minExponent (top - (f.precision - 1 : Nat)) ∧
      (2 : ℚ) ^ top ≤ num / den ∧ (num : ℚ) / den < 2 ^ (top + 1) := by
  obtain ⟨hnumLow, hnumHigh⟩ := two_pow_log2_le hnum
  obtain ⟨hdenLow, hdenHigh⟩ := two_pow_log2_le hden
  have hdenPos : (0 : ℚ) < den := by exact_mod_cast Nat.pos_of_ne_zero hden
  have hscaled : ∀ e : ℤ, num * 2 ^ (-e).toNat < den * 2 ^ e.toNat ↔ (num : ℚ) / den < 2 ^ e := fun e => by
    have hpos : (0 : ℚ) < ((den * 2 ^ e.toNat : Nat) : ℚ) := by positivity
    rw [← div_lt_one₀ (two_zpow_pos e), ← div_two_zpow, div_lt_one₀ hpos, Nat.cast_lt]
  have hbelow : (2 : ℚ) ^ ((num.log2 : ℤ) - den.log2 - 1) ≤ num / den := by
    rw [le_div_iff₀ hdenPos]
    calc (2 : ℚ) ^ ((num.log2 : ℤ) - den.log2 - 1) * den
        ≤ 2 ^ ((num.log2 : ℤ) - den.log2 - 1) * 2 ^ ((den.log2 : ℤ) + 1) :=
          mul_le_mul_of_nonneg_left hdenHigh.le (two_zpow_pos _).le
      _ = 2 ^ (num.log2 : ℤ) := by
          rw [← zpow_add₀ two_ne_zero]
          congr 1
          omega
      _ ≤ num := hnumLow
  have habove : (num : ℚ) / den < 2 ^ ((num.log2 : ℤ) - den.log2 + 1) := by
    rw [div_lt_iff₀ hdenPos]
    calc (num : ℚ) < 2 ^ ((num.log2 : ℤ) + 1) := hnumHigh
      _ = 2 ^ ((num.log2 : ℤ) - den.log2 + 1) * 2 ^ (den.log2 : ℤ) := by
          rw [← zpow_add₀ two_ne_zero]
          congr 1
          omega
      _ ≤ 2 ^ ((num.log2 : ℤ) - den.log2 + 1) * den := mul_le_mul_of_nonneg_left hdenLow (two_zpow_pos _).le
  rw [lastPlace]
  split
  · next hlt =>
    refine ⟨_, rfl, hbelow, ?_⟩
    rw [Int.sub_add_cancel]
    exact (hscaled _).mp hlt
  · next hge => exact ⟨_, rfl, not_lt.mp (mt (hscaled _).mpr hge), habove⟩

/-- The last place is the one that leaves as many bits as the format has; fewer are left only where the
    exponent can go no lower. -/
theorem lastPlace_spec (hf : 1 ≤ f.precision) (hnum : num ≠ 0) (hden : den ≠ 0) :
    f.minExponent ≤ f.lastPlace num den ∧ (num : ℚ) / den / 2 ^ f.lastPlace num den < 2 * f.binade ∧
      (f.lastPlace num den = f.minExponent ∨ (f.binade : ℚ) ≤ (num : ℚ) / den / 2 ^ f.lastPlace num den) := by
  obtain ⟨top, heq, hlow, hhigh⟩ := f.exists_leading hnum hden
  have hbinade : (f.binade : ℚ) = 2 ^ ((f.precision - 1 : Nat) : ℤ) := by
    rw [zpow_natCast, binade]
    push_cast
    rfl
  generalize f.lastPlace num den = e at heq ⊢
  refine ⟨by omega, ?_, ?_⟩
  · rw [div_lt_iff₀ (two_zpow_pos e), hbinade, mul_assoc, ← zpow_add₀ two_ne_zero, ← zpow_one_add₀ two_ne_zero]
    exact lt_of_lt_of_le hhigh (zpow_le_zpow_right₀ one_le_two (by omega))
  · rcases eq_or_ne e f.minExponent with hmin | hmin
    · exact Or.inl hmin
    · right
      rw [le_div_iff₀ (two_zpow_pos e), hbinade, ← zpow_add₀ two_ne_zero]
      exact le_trans (zpow_le_zpow_right₀ one_le_two (by omega)) hlow

/-- Twice the rest of a division is to a unit as twice the remainder is to the divisor. -/
theorem two_mul_rest {r d : Nat} {unit : ℚ} (hd : 0 < d) (hunit : 0 < unit) :
    (2 * ((r : ℚ) / d * unit) ≤ unit ↔ 2 * r ≤ d) ∧ (unit ≤ 2 * ((r : ℚ) / d * unit) ↔ d ≤ 2 * r) := by
  have hdpos : (0 : ℚ) < d := by exact_mod_cast hd
  have htwice : 2 * ((r : ℚ) / d * unit) = ((2 * r : Nat) : ℚ) / d * unit := by
    push_cast
    ring
  rw [htwice]
  constructor
  · rw [mul_le_iff_le_one_left hunit, div_le_one₀ hdpos, Nat.cast_le]
  · rw [le_mul_iff_one_le_left hunit, one_le_div₀ hdpos, Nat.cast_le]

/-- A quotient between two points of a grid, rounded to the nearer one. -/
theorem nearest_grid (hf : 2 ≤ f.precision) {k n d : Nat} (hd : 0 < d) (hnormal : k = 0 ∨ f.binade ≤ n / d)
    (hhigh : n / d < 2 * f.binade) :
    f.Nearest ((n : ℚ) / d * 2 ^ (f.minExponent + k)) (min f.infinity (k * f.binade + quotientToEven n d)) := by
  have hdpos : (0 : ℚ) < d := by exact_mod_cast hd
  have hunit := two_zpow_pos (f.minExponent + k)
  have hcode := value_grid hnormal hhigh.le
  have hnext := value_succ_grid hnormal hhigh
  generalize (2 : ℚ) ^ (f.minExponent + k) = unit at hunit hcode hnext ⊢
  obtain ⟨hlower, hupper⟩ := two_mul_rest (r := n % d) hd hunit
  have hv : (n : ℚ) / d * unit = f.value (k * f.binade + n / d) + (n % d : Nat) / d * unit := by
    have hsplit : (n : ℚ) = d * (n / d : Nat) + (n % d : Nat) := by exact_mod_cast (Nat.div_add_mod n d).symm
    rw [hcode, ← add_mul, ← mul_div_cancel_left₀ ((n / d : Nat) : ℚ) hdpos.ne', ← add_div, ← hsplit]
  have hnonneg : (0 : ℚ) ≤ (n % d : Nat) / d * unit := by positivity
  have hlt : ((n % d : Nat) : ℚ) / d * unit < unit := by
    rw [mul_lt_iff_lt_one_left hunit, div_lt_one₀ hdpos, Nat.cast_lt]
    exact Nat.mod_lt n hd
  rw [hv]
  generalize ((n % d : Nat) : ℚ) / d * unit = rest at hlower hupper hnonneg hlt ⊢
  have htie : 2 * rest = unit → 2 * (n % d) = d := fun h => Nat.le_antisymm (hlower.mp h.le) (hupper.mp h.ge)
  have hparity : ∀ q, Even q → Even (k * f.binade + q) := fun q => ((even_binade hf).mul_left k).add
  rcases Nat.lt_or_ge (k * f.binade + n / d) f.infinity with hinf | hinf
  · rcases quotientToEven_cases n d with ⟨hq, hmiddle, heven⟩ | ⟨hq, hmiddle, heven⟩
    · have hle := hlower.mpr hmiddle
      rw [hq, min_eq_right hinf.le]
      exact nearest_lower hinf (by linarith) (by linarith) fun heq => hparity _ (heven (htie (by linarith)))
    · have hle := hupper.mpr hmiddle
      rw [hq, ← Nat.add_assoc, min_eq_right hinf]
      refine nearest_upper hinf (by linarith) (by linarith) fun heq => ?_
      rw [Nat.add_assoc]
      exact hparity _ (heven (htie (by linarith)))
  · -- the whole grid cell lies at or behind infinity
    have hq : n / d ≤ quotientToEven n d := by
      rcases quotientToEven_cases n d with ⟨hq, -⟩ | ⟨hq, -⟩ <;> omega
    have hinfinity := f.value_strictMono.monotone hinf
    rw [min_eq_left (by omega)]
    exact nearest_infinity (by linarith)

theorem nearest_ofRatio (hf : 2 ≤ f.precision) (num : Nat) (hden : den ≠ 0) :
    f.Nearest (num / den) (f.ofRatio num den) := by
  rw [ofRatio]
  split
  · next hzero =>
    rw [hzero, Nat.cast_zero, zero_div, ← f.value_zero]
    exact nearest_value (Nat.zero_le _)
  · next hnum =>
    obtain ⟨hmin, hhigh, hnormal⟩ := lastPlace_spec (Nat.le_of_lt hf) hnum hden
    dsimp only
    generalize f.lastPlace num den = e at hmin hhigh hnormal ⊢
    obtain ⟨k, hk⟩ := Int.eq_ofNat_of_zero_le (Int.sub_nonneg_of_le hmin)
    obtain rfl : e = f.minExponent + k := by omega
    have hdpos : 0 < den * 2 ^ (f.minExponent + k).toNat :=
      Nat.mul_pos (Nat.pos_of_ne_zero hden) (Nat.two_pow_pos _)
    have hdposRat : (0 : ℚ) < (den * 2 ^ (f.minExponent + k).toNat : Nat) := by exact_mod_cast hdpos
    rw [← div_two_zpow, div_lt_iff₀ hdposRat] at hhigh
    rw [← div_two_zpow, le_div_iff₀ hdposRat] at hnormal
    rw [← div_mul_cancel₀ ((num : ℚ) / den) (two_zpow_pos (f.minExponent + k)).ne', ← div_two_zpow, hk]
    refine nearest_grid hf hdpos (hnormal.imp (by omega) fun h => ?_) ?_
    · rw [Nat.le_div_iff_mul_le hdpos]
      exact_mod_cast h
    · rw [Nat.div_lt_iff_lt_mul hdpos]
      exact_mod_cast hhigh

theorem nearest_ofMagnitude (hf : 2 ≤ f.precision) (m : Magnitude) : f.Nearest m.toRat (f.ofMagnitude m) := by
  rw [m.toRat_eq_ratio]
  exact nearest_ofRatio hf _ m.ratio_pos.ne'

theorem nearest_iff (hf : 2 ≤ f.precision) {m : Magnitude} {code : Nat} :
    f.Nearest m.toRat code ↔ code = f.ofMagnitude m := by
  constructor
  · exact fun h => h.unique (nearest_ofMagnitude hf m)
  · rintro rfl
    exact nearest_ofMagnitude hf m

/-- What has a code is not changed by rounding. -/
theorem ofMagnitude_decode (hf : 2 ≤ f.precision) {code : Nat} (h : code ≤ f.infinity) :
    f.ofMagnitude (f.decode code) = code :=
  (nearest_ofMagnitude hf _).unique (nearest_value h)

end

end BinaryFormat

end KernelAudit
