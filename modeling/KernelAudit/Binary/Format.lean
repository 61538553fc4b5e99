import KernelAudit.Power

/-! Binary floating-point formats. A finite magnitude is a whole number times a power of two, and its
    code is the number that the exponent field and the fraction field spell together, so that codes
    are ordered as the magnitudes they stand for and the code after the largest finite one is infinity.
    Rounding goes to the nearest representable magnitude, a tie to the even code. -/

namespace KernelAudit

/-- The quotient of `n` by `d`, rounded to the nearest whole number, a half to the even one. -/
def quotientToEven (n d : Nat) : Nat :=
  let q := n / d
  let twice := 2 * (n % d)
  if twice < d ∨ (twice = d ∧ q % 2 = 0) then q else q + 1

/-- The magnitude `significand * 2 ^ exponent`. -/
structure Magnitude where
  significand : Nat
  exponent : Int
  deriving DecidableEq, Repr

namespace Magnitude

/-- The magnitude as a quotient of whole numbers. -/
def ratio (m : Magnitude) : Nat × Nat :=
  (m.significand * 2 ^ m.exponent.toNat, 2 ^ (-m.exponent).toNat)

/-- The product is exact. -/
def mul (a b : Magnitude) : Magnitude :=
  ⟨a.significand * b.significand, a.exponent + b.exponent⟩

/-- The magnitude as a multiple of a power of two that is no larger than its own. -/
def multiple (m : Magnitude) (exponent : Int) : Nat :=
  m.significand * 2 ^ (m.exponent - exponent).toNat

end Magnitude

/-- `precision` counts the bits of a significand, its leading one included; `minExponent` is the
    exponent of the smallest positive magnitude; `infinity` is the first code that is not finite. -/
structure BinaryFormat where
  precision : Nat
  minExponent : Int
  infinity : Nat

namespace BinaryFormat

/-- Thirty-two bits, twenty-four of precision. -/
def single : BinaryFormat := ⟨24, -149, 0x7f800000⟩

/-- Sixty-four bits, fifty-three of precision. -/
def double : BinaryFormat := ⟨53, -1074, 0x7ff0000000000000⟩

/-- The number of codes between two neighbouring powers of two. -/
def binade (f : BinaryFormat) : Nat := 2 ^ (f.precision - 1)

/-- The magnitude that a finite code stands for. -/
def decode (f : BinaryFormat) (code : Nat) : Magnitude :=
  if code < f.binade then ⟨code, f.minExponent⟩
  else ⟨f.binade + code % f.binade, f.minExponent + (code / f.binade - 1 : Nat)⟩

/-- The exponent of the last place that `num / den` keeps. -/
def lastPlace (f : BinaryFormat) (num den : Nat) : Int :=
  let guess : Int := num.log2 - den.log2
  let top := if num * 2 ^ (-guess).toNat < den * 2 ^ guess.toNat then guess - 1 else guess
  max f.minExponent (top - (f.precision - 1 : Nat))

/-- The code nearest to `num / den`. -/
def ofRatio (f : BinaryFormat) (num den : Nat) : Nat :=
  if num = 0 then 0
  else
    let e := f.lastPlace num den
    let q := quotientToEven (num * 2 ^ (-e).toNat) (den * 2 ^ e.toNat)
    min f.infinity ((e - f.minExponent).toNat * f.binade + q)

/-- The code nearest to a magnitude. -/
def ofMagnitude (f : BinaryFormat) (m : Magnitude) : Nat :=
  f.ofRatio m.ratio.1 m.ratio.2

/-- The code nearest to a whole number. -/
def ofNat (f : BinaryFormat) (n : Nat) : Nat := f.ofRatio n 1

/-- The code nearest to the quotient of two finite codes. -/
def div (f : BinaryFormat) (a b : Nat) : Nat :=
  let (an, ad) := (f.decode a).ratio
  let (bn, bd) := (f.decode b).ratio
  f.ofRatio (an * bd) (ad * bn)

/-- The code nearest to the product of two finite codes. -/
def mul (f : BinaryFormat) (a b : Nat) : Nat :=
  f.ofMagnitude ((f.decode a).mul (f.decode b))

end BinaryFormat

end KernelAudit
