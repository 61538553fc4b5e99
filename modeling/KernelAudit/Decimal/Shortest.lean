import KernelAudit.Binary.Single

/-! The shortest decimal that reads back as a given binary magnitude. The decimals with last place
    `10 ^ k` form a grid; the coarsest grid that has a point among the numbers that round to the
    magnitude gives the fewest digits, and of two such points the nearer one is taken. Who asks for the
    decimal says what becomes of a tie. -/

namespace KernelAudit

/-- The decimal `digits * 10 ^ exponent`. -/
structure Decimal where
  digits : Nat
  exponent : Int
  deriving DecidableEq, Repr

namespace Decimal

/-- Which of two equally near decimals is taken: the larger one, or the one whose last digit is even. -/
inductive Tie where
  | up
  | even
  deriving DecidableEq, Repr

/-- Whether the lower of two equally near neighbours is taken, given its digits. -/
def Tie.keepsLower : Tie → Nat → Bool
  | .up, _ => false
  | .even, d => d % 2 = 0

/-- The numbers that round to one magnitude, as multiples of `2 ^ exponent`; the two ends belong to
    them when `closed` is set. -/
structure Interval where
  low : Nat
  middle : Nat
  high : Nat
  exponent : Int
  closed : Bool

/-- The interval of a positive finite code. It reaches half way to both neighbours, and the lower
    neighbour of a power of two is only half as far away. -/
def Interval.ofCode (f : BinaryFormat) (code : Nat) : Interval :=
  let m := f.decode code
  let below := if code % f.binade = 0 ∧ f.binade < code then 1 else 2
  { low := 4 * m.significand - below
    middle := 4 * m.significand
    high := 4 * m.significand + 2
    exponent := m.exponent - 2
    closed := code % 2 = 0 }

/-- The point of the grid `10 ^ k` that lies in the interval and is nearest to its middle. -/
def Interval.point? (tie : Tie) (i : Interval) (k : Int) : Option Decimal :=
  let unit := 2 ^ i.exponent.toNat * 10 ^ (-k).toNat
  let grid := 10 ^ k.toNat * 2 ^ (-i.exponent).toNat
  let within (d : Nat) : Bool :=
    if i.closed then i.low * unit ≤ d * grid ∧ d * grid ≤ i.high * unit
    else i.low * unit < d * grid ∧ d * grid < i.high * unit
  let d := i.middle * unit / grid
  let past := 2 * (i.middle * unit - d * grid)
  let nearerBelow : Bool := past < grid || (past = grid && tie.keepsLower d)
  if within d && (nearerBelow || !within (d + 1)) then some ⟨d, k⟩
  else if within (d + 1) then some ⟨d + 1, k⟩
  else none

/-- The shortest decimal of a positive finite code. Grids are tried from the place above the first
    digit downwards; the grid below the magnitude's own last place always has a point. -/
def shortest (tie : Tie) (f : BinaryFormat) (code : Nat) : Decimal :=
  let i := Interval.ofCode f code
  let top := (toString ((f.decode code).ratio.1 / (f.decode code).ratio.2)).length
  let tries := top + (-i.exponent).toNat + 2
  ((List.range tries).findSome? fun (j : Nat) => i.point? tie ((top : Int) - j)).getD ⟨0, 0⟩

/-- The decimal without an exponent; the digits after the point appear only where there are any. -/
def positional (d : Decimal) : String :=
  let digits := (toString d.digits).toList
  if 0 ≤ d.exponent then String.ofList (digits ++ List.replicate d.exponent.toNat '0')
  else
    let places := (-d.exponent).toNat
    let padded := List.replicate (places + 1 - digits.length) '0' ++ digits
    String.ofList (padded.take (padded.length - places) ++ '.' :: padded.drop (padded.length - places))

/-- The power of ten of the first digit. -/
def leading (d : Decimal) : Int := d.exponent + ((toString d.digits).length - 1 : Nat)

/-- The decimal with one digit before the point and a signed power of ten. -/
def scientific (d : Decimal) : String :=
  let sign := if d.leading < 0 then "-" else "+"
  let mantissa := match (toString d.digits).toList with
    | [] => []
    | [c] => [c]
    | c :: rest => c :: '.' :: rest
  String.ofList mantissa ++ "e" ++ sign ++ toString d.leading.natAbs

end Decimal

/-- The text of a number: no exponent, and no point in a whole number. -/
def Single.text (x : Single) : String :=
  let sign (negative : Bool) := if negative then "-" else ""
  match x.value with
  | .nan => "NaN"
  | .infinity s => sign s ++ "inf"
  | .zero s => sign s ++ "0"
  | .finite s _ => sign s ++ (Decimal.shortest .up .single x.code).positional

end KernelAudit
