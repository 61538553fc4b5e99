import KernelAudit.Decimal.Fixed

/-! Numbers of the sixty-four bit format read from texts, and written with a number of places that is
    asked for: with a fixed point, with a power of ten, or whichever of the two is shorter. -/

namespace KernelAudit

/-- A number of the sixty-four bit format: a sign and the code of a magnitude. -/
structure Double where
  negative : Bool
  code : Nat
  deriving DecidableEq, Repr

namespace Double

/-- The code of what is not a number. -/
def notANumber : Nat := BinaryFormat.double.infinity + 2 ^ 51

def isFinite (x : Double) : Bool := x.code < BinaryFormat.double.infinity

/-! ### Reading -/

/-- The value of some digits. -/
def digitsValue (ds : List Char) : Nat := ds.foldl (fun n c => n * 10 + (c.toNat - 48)) 0

/-- A power of ten in front of some text: its exponent and what is left. -/
def readExponent (text : List Char) : Int × List Char :=
  match text with
  | e :: rest =>
    if e = 'e' || e = 'E' then
      let (negative, digits) := match rest with
        | '-' :: ds => (true, ds)
        | '+' :: ds => (false, ds)
        | ds => (false, ds)
      let ds := digits.takeWhile Char.isDigit
      if ds.isEmpty then (0, text)
      else
        let n : Int := digitsValue (ds.take 9)
        (if negative then -n else n, digits.drop ds.length)
    else (0, text)
  | [] => (0, [])

/-- The code of `digits * 10 ^ exponent`. What is too large for a power to be written out is infinite,
    what is too small is zero. -/
def codeOf (digits : Nat) (length : Nat) (exponent : Int) : Nat :=
  if digits = 0 then 0
  else if 400 < exponent + length then BinaryFormat.double.infinity
  else if exponent + length < -400 then 0
  else BinaryFormat.double.ofRatio (digits * 10 ^ exponent.toNat) (10 ^ (-exponent).toNat)

/-- Drops a word from the front of a text in whatever case it is written. -/
def dropWord? (word : String) (text : List Char) : Option (List Char) :=
  if (text.take word.length).map Char.toLower = word.toList then some (text.drop word.length) else none

/-- The number at the front of a text, and what is left; without one the whole text is left. -/
def read (text : List Char) : Double × List Char :=
  let body := text.dropWhile fun c => c = ' ' || (9 ≤ c.toNat && c.toNat ≤ 13)
  let (negative, body) := match body with
    | '-' :: rest => (true, rest)
    | '+' :: rest => (false, rest)
    | rest => (false, rest)
  let whole := body.takeWhile Char.isDigit
  let afterWhole := body.drop whole.length
  let (fraction, rest) := match afterWhole with
    | '.' :: more =>
      let ds := more.takeWhile Char.isDigit
      if whole.isEmpty && ds.isEmpty then ([], afterWhole) else (ds, more.drop ds.length)
    | _ => ([], afterWhole)
  if whole.isEmpty && fraction.isEmpty then
    match dropWord? "infinity" body, dropWord? "inf" body, dropWord? "nan" body with
    | some rest, _, _ | none, some rest, _ => (⟨negative, BinaryFormat.double.infinity⟩, rest)
    | none, none, some rest => (⟨negative, notANumber⟩, rest)
    | none, none, none => (⟨false, 0⟩, text)
  else
    let (exponent, rest) := readExponent rest
    let digits := whole ++ fraction
    (⟨negative, codeOf (digitsValue digits) digits.length (exponent - fraction.length)⟩, rest)

/-! ### Writing -/

/-- The magnitude as a quotient. -/
def ratio (x : Double) : Nat × Nat := (BinaryFormat.double.decode x.code).ratio

/-- The largest power of ten that is not above a positive quotient. -/
def decimalExponent (num den : Nat) : Int :=
  if den ≤ num then ((toString (num / den)).length - 1 : Nat)
  else
    -- The quotient lies below one, so its inverse has at least as many digits as there are zeros.
    let n : Nat := (toString (den / num)).length
    if den ≤ num * 10 ^ (n - 1) then -((n - 1 : Nat) : Int) else -(n : Int)

/-- The digits of a quotient to a number of places behind the first, with the power of ten of the first
    digit after rounding. -/
def scientificDigits (num den places : Nat) : Nat × Int :=
  if num = 0 then (0, 0)
  else
    let e := decimalExponent num den
    let shift : Int := places - e
    let q := quotientToEven (num * 10 ^ shift.toNat) (den * 10 ^ (-shift).toNat)
    if 10 ^ (places + 1) ≤ q then (q / 10, e + 1) else (q, e)

/-- Digits with a point behind the first; `keepsPoint` sets it even if none follow. -/
def pointed (digits : List Char) (keepsPoint : Bool) : List Char :=
  match digits with
  | [] => []
  | c :: rest => c :: (if rest.isEmpty && !keepsPoint then [] else '.' :: rest)

def exponentText (e : Int) : List Char :=
  'e' :: (if e < 0 then '-' else '+') :: (Text.zeroPadded 2 e.natAbs).toList

def dropEndZeros (digits : List Char) : List Char := (digits.reverse.dropWhile (· = '0')).reverse

/-- With a fixed point. -/
def fixed (num den places : Nat) (keepsPoint : Bool) : List Char :=
  if places = 0 then (toString (quotientToEven num den)).toList ++ if keepsPoint then ['.'] else []
  else (fixedPlaces num den places).toList

/-- With a power of ten. -/
def scientific (num den places : Nat) (keepsPoint : Bool) : List Char :=
  let (digits, e) := scientificDigits num den places
  pointed (Text.zeroPadded (places + 1) digits).toList keepsPoint ++ exponentText e

/-- With a fixed point if the number is neither too large nor too small for it, without zeros at the
    end unless they are to be kept. -/
def general (num den precision : Nat) (keepsZeros : Bool) : List Char :=
  let p := max 1 precision
  let (digits, e) := scientificDigits num den (p - 1)
  let digits := (Text.zeroPadded p digits).toList
  if e < -4 || (p : Int) ≤ e then
    pointed (if keepsZeros then digits else digits.take 1 ++ dropEndZeros (digits.drop 1)) keepsZeros ++
      exponentText e
  else
    let text := fixed num den ((p : Int) - 1 - e).toNat keepsZeros
    if keepsZeros || !text.contains '.' then text
    else
      let short := dropEndZeros text
      if short.getLast? = some '.' then short.dropLast else short

/-- The magnitude in one of the three ways, which a letter names. -/
def magnitudeText (x : Double) (way : Char) (precision : Nat) (alternative : Bool) : List Char :=
  if x.isFinite then
    let (num, den) := x.ratio
    match way with
    | 'f' => fixed num den precision alternative
    | 'e' => scientific num den precision alternative
    | _ => general num den precision alternative
  else if x.code = BinaryFormat.double.infinity then "inf".toList
  else "nan".toList

end Double

end KernelAudit
