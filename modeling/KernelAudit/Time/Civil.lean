import KernelAudit.Text.Padded

/-! Points in time as dates of the Gregorian calendar. Days are counted from the first of January 1970.
    Years are taken to begin in March, so that the leap day is the last day of its year, and the
    calendar repeats every 400 years. -/

namespace KernelAudit

structure CivilDate where
  year : Nat
  month : Nat
  day : Nat
  deriving DecidableEq, Repr

namespace CivilDate

/-- The days of 400 years. -/
def era : Nat := 146097

/-- The days from the first of March of the year 0 to the beginning of the count. -/
def origin : Nat := 719468

/-- The date of a day. -/
def ofDay (n : Nat) : CivilDate :=
  let z := n + origin
  let inEra := z % era
  let yearOfEra := (inEra - inEra / 1460 + inEra / 36524 - inEra / 146096) / 365
  let dayOfYear := inEra - (365 * yearOfEra + yearOfEra / 4 - yearOfEra / 100)
  let fromMarch := (5 * dayOfYear + 2) / 153
  let month := if fromMarch < 10 then fromMarch + 3 else fromMarch - 9
  { year := yearOfEra + z / era * 400 + if month ≤ 2 then 1 else 0
    month
    day := dayOfYear - (153 * fromMarch + 2) / 5 + 1 }

/-- The last year that timestamps are written for. -/
def lastYear : Nat := 262142

end CivilDate

/-- Seconds since 1970 as date and time. Years of five and six digits get a sign, and what lies beyond
    the last year is given by its number. -/
def timestampText (seconds : UInt64) : String :=
  let seconds := seconds.toNat
  let date := CivilDate.ofDay (seconds / 86400)
  if CivilDate.lastYear < date.year then s!"@{seconds}"
  else
    let year := (if 9999 < date.year then "+" else "") ++ Text.zeroPadded 4 date.year
    let day := Text.zeroPadded 2 date.month ++ "-" ++ Text.zeroPadded 2 date.day
    let minute := Text.zeroPadded 2 (seconds / 3600 % 24) ++ ":" ++ Text.zeroPadded 2 (seconds / 60 % 60)
    year ++ "-" ++ day ++ "T" ++ minute ++ ":" ++ Text.zeroPadded 2 (seconds % 60) ++ "Z"

end KernelAudit
