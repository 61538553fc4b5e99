import KernelAudit.Decimal.Shortest

/-! Numerals of JSON as they are written, and what they count as: a whole number of sixty-four bits, a
    negative one of sixty-three, or a number with a fraction. A numeral with a fraction keeps the
    leading digits that fit sixty-four bits and is scaled by a power of ten, each step rounded. -/

namespace KernelAudit

/-- A numeral: sign, digits before the point, digits after it, and the power of ten if one is written. -/
structure Numeral where
  negative : Bool
  whole : List Char
  fraction : List Char
  exponent : Option Int
  deriving DecidableEq, Repr

namespace Numeral

/-- What a numeral counts as. A fraction is given by its sign and the code of its magnitude. -/
inductive Kind where
  | natural (n : Nat)
  | negative (n : Nat)
  | fractional (negative : Bool) (code : Nat)
  | outOfRange
  deriving DecidableEq, Repr

def ofNat (n : Nat) : Numeral := ⟨false, Nat.toDigits 10 n, [], none⟩

def digit (c : Char) : Nat := c.toNat - '0'.toNat

/-- A significand of sixty-four bits with a power of ten. -/
structure Scaled where
  significand : Nat
  exponent : Int
  deriving DecidableEq, Repr

/-- A further digit is taken in while the significand has room for it. -/
def Scaled.push? (s : Scaled) (c : Char) : Option Nat :=
  let n := s.significand * 10 + digit c
  if n < 2 ^ 64 then some n else none

/-- Digits before the point; the first one without room stands, like all behind it, for a zero. -/
def pushWhole (s : Scaled) : List Char → Scaled
  | [] => s
  | c :: rest =>
    match s.push? c with
    | some n => pushWhole { s with significand := n } rest
    | none => { s with exponent := s.exponent + (c :: rest).length }

/-- Digits after the point; the first one without room ends the significand. -/
def pushFraction (s : Scaled) : List Char → Scaled
  | [] => s
  | c :: rest =>
    match s.push? c with
    | some n => pushFraction ⟨n, s.exponent - 1⟩ rest
    | none => s

/-- The largest power of ten that one step scales by. -/
def maxPower : Nat := 308

/-- Divides by the largest power of ten while the exponent lies below what one step can do. -/
def descend : (steps : Nat) → (code : Nat) → (exponent : Int) → Nat × Int
  | 0, code, e => (code, e)
  | steps + 1, code, e =>
    if code = 0 ∨ -(maxPower : Int) ≤ e then (code, e)
    else descend steps (BinaryFormat.double.div code (BinaryFormat.double.ofNat (10 ^ maxPower))) (e + maxPower)

/-- The code of a scaled significand, unless its magnitude is too large. Twelve steps down bring every
    magnitude to zero. -/
def Scaled.code? (s : Scaled) : Option Nat :=
  let f := BinaryFormat.double
  let (code, e) := descend 12 (f.ofNat s.significand) s.exponent
  if code = 0 then some 0
  else if e < 0 then some (f.div code (f.ofNat (10 ^ (-e).toNat)))
  else if e > maxPower then none
  else
    let product := f.mul code (f.ofNat (10 ^ e.toNat))
    if product < f.infinity then some product else none

/-- What the numeral counts as. Negative zero and whole numbers without room are fractional. -/
def kind (n : Numeral) : Kind :=
  let whole := pushWhole ⟨0, 0⟩ n.whole
  let fits := whole.exponent = 0 ∧ if n.negative then 0 < whole.significand ∧ whole.significand ≤ 2 ^ 63 else True
  if n.fraction = [] ∧ n.exponent = none ∧ fits then
    if n.negative then .negative whole.significand else .natural whole.significand
  else
    let scaled := pushFraction whole n.fraction
    match { scaled with exponent := scaled.exponent + n.exponent.getD 0 : Scaled }.code? with
    | some code => .fractional n.negative code
    | none => .outOfRange

/-- The text of a fractional number: at least one digit after the point, and a power of ten where the
    first digit stands far from it. -/
def fractionalText (negative : Bool) (code : Nat) : String :=
  let sign := if negative then "-" else ""
  if code = 0 then sign ++ "0.0"
  else
    let d := Decimal.shortest .even .double code
    if d.leading < -5 ∨ 16 ≤ d.leading then sign ++ d.scientific
    else if d.exponent < 0 then sign ++ d.positional
    else sign ++ d.positional ++ ".0"

/-- The numeral as it is written. -/
def chars (n : Numeral) : List Char :=
  (if n.negative then ['-'] else []) ++ n.whole ++
  (if n.fraction = [] then [] else '.' :: n.fraction) ++
  match n.exponent with
  | none => []
  | some e => 'e' :: (toString e).toList

end Numeral

end KernelAudit
