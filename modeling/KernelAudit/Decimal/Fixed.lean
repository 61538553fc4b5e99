import KernelAudit.Binary.Format
import KernelAudit.Text.Padded

/-! Decimals with a fixed number of places. A value is rounded to the nearest such decimal, a half to
    the even one. Durations in milliseconds are written as seconds this way, after the quotient has
    been taken in the sixty-four bit format. -/

namespace KernelAudit

/-- `num / den` with exactly `places` digits after the point. -/
def fixedPlaces (num den places : Nat) : String :=
  let q := quotientToEven (num * 10 ^ places) den
  toString (q / 10 ^ places) ++ "." ++ Text.zeroPadded places (q % 10 ^ places)

/-- Milliseconds as seconds: the count is taken to sixty-four bits, divided by a thousand there, and
    the result is written with `places` digits after the point. -/
def secondsText (milliseconds places : Nat) : String :=
  let f := BinaryFormat.double
  let (num, den) := (f.decode (f.div (f.ofNat milliseconds) (f.ofNat 1000))).ratio
  fixedPlaces num den places

end KernelAudit
