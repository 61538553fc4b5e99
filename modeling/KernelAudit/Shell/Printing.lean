import KernelAudit.Decimal.Formatted
import KernelAudit.Shell.Arithmetic

/-! What the printing commands write: texts with escapes, and formats that are filled in with arguments.
    A format is used again as long as arguments are left. -/

namespace KernelAudit.Shell

/-! ### Escapes -/

/-- The character of a one-letter escape. -/
def simpleEscape? : Char → Option Char
  | 'a' => some '\x07'
  | 'b' => some '\x08'
  | 'e' => some '\x1b'
  | 't' => some '\t'
  | 'n' => some '\n'
  | 'v' => some '\x0b'
  | 'f' => some '\x0c'
  | 'r' => some '\x0d'
  | '\\' => some '\\'
  | _ => none

def isOctal (c : Char) : Bool := decide ('0' ≤ c ∧ c ≤ '7')

/-- A run of octal digits at the front, at most `limit` of them: its value and what is left. -/
def readOctal : (limit : Nat) → Nat → List Char → Nat × List Char
  | limit + 1, value, c :: rest =>
    if isOctal c then readOctal limit (value * 8 + (c.toNat - 48)) rest else (value, c :: rest)
  | _, value, cs => (value, cs)

/-- The character of an escape after its backslash, and what is left. A backslash in front of anything
    else is kept, and what follows it as well. -/
def readEscape : List Char → Char × List Char
  | [] => ('\\', [])
  | c :: rest =>
    match simpleEscape? c with
    | some d => (d, rest)
    | none =>
      if isOctal c then
        let (value, rest) := readOctal 3 0 (c :: rest)
        (Char.ofNat (value % 256), rest)
      else ('\\', c :: rest)

/-- A text with its escapes, in which an octal one can have a zero in front; whether more can follow,
    since one escape ends all output. -/
def escapedText : (fuel : Nat) → List Char → List Char × Bool
  | 0, _ => ([], true)
  | _, [] => ([], true)
  | _, '\\' :: 'c' :: _ => ([], false)
  | fuel + 1, '\\' :: rest =>
    let (c, rest) := match rest with
      | '0' :: d :: more => if isOctal d then readEscape (d :: more) else readEscape rest
      | _ => readEscape rest
    let (more, goesOn) := escapedText fuel rest
    (c :: more, goesOn)
  | fuel + 1, c :: rest =>
    let (more, goesOn) := escapedText fuel rest
    (c :: more, goesOn)

def withEscapes (s : String) : String × Bool :=
  let (cs, goesOn) := escapedText (s.length + 1) s.toList
  (String.ofList cs, goesOn)

/-- What echoing some words writes. -/
def echoText (words : List String) : String :=
  let (line, words) := match words with
    | "-n" :: rest => ("", rest)
    | words => ("\n", words)
  let (text, goesOn) := withEscapes (" ".intercalate words)
  if goesOn then text ++ line else text

/-! ### Formats -/

/-- A place in a format that an argument goes to. A width or precision that is missing in the format may
    be given by an argument. -/
structure Slot where
  flags : List Char
  width : Option Nat
  widthGiven : Bool
  precision : Option Nat
  precisionGiven : Bool
  conversion : Char
  deriving Repr

namespace Slot

def isLeft (s : Slot) : Bool := s.flags.contains '-'

/-- A text brought to the width of the slot. -/
def fill (s : Slot) (text : List Char) : List Char :=
  let missing := List.replicate (s.width.getD 0 - text.length) ' '
  if s.isLeft then text ++ missing else missing ++ text

/-- A number brought to the width of the slot; zeros go behind what stands in front of the digits. -/
def fillNumber (s : Slot) (front digits : List Char) (zeros : Bool) : List Char :=
  if zeros && s.flags.contains '0' && !s.isLeft then
    front ++ List.replicate (s.width.getD 0 - front.length - digits.length) '0' ++ digits
  else s.fill (front ++ digits)

def sign (s : Slot) (negative : Bool) : List Char :=
  if negative then ['-'] else if s.flags.contains '+' then ['+'] else if s.flags.contains ' ' then [' ']
  else []

def text (s : Slot) (t : String) : List Char :=
  s.fill (match s.precision with
    | some p => t.toList.take p
    | none => t.toList)

/-- The digits of a whole number, with zeros up to the precision. -/
def wholeDigits (s : Slot) (base n : Nat) : List Char :=
  let digits := if n = 0 && s.precision = some 0 then [] else Nat.toDigits base n
  List.replicate (s.precision.getD 0 - digits.length) '0' ++ digits

def signed (s : Slot) (n : Int64) : List Char :=
  s.fillNumber (s.sign (n < 0)) (s.wholeDigits 10 n.toInt.natAbs) s.precision.isNone

def unsigned (s : Slot) (n : UInt64) : List Char :=
  let alternative := s.flags.contains '#'
  let whole := s.precision.isNone
  match s.conversion with
  | 'o' =>
    let digits := s.wholeDigits 8 n.toNat
    s.fillNumber [] (if alternative && digits.head? ≠ some '0' then '0' :: digits else digits) whole
  | 'x' => s.fillNumber (if alternative && n ≠ 0 then ['0', 'x'] else []) (s.wholeDigits 16 n.toNat) whole
  | 'X' =>
    s.fillNumber (if alternative && n ≠ 0 then ['0', 'X'] else [])
      ((s.wholeDigits 16 n.toNat).map Char.toUpper) whole
  | _ => s.fillNumber [] (s.wholeDigits 10 n.toNat) whole

def floating (s : Slot) (x : Double) : List Char :=
  let digits := x.magnitudeText s.conversion.toLower (s.precision.getD 6) (s.flags.contains '#')
  let digits := if s.conversion.isUpper then digits.map Char.toUpper else digits
  s.fillNumber (s.sign x.negative) digits x.isFinite

end Slot

/-- Digits at the front of a format: their value and what is left. -/
def readWidth (format : List Char) : Option Nat × List Char :=
  let ds := format.takeWhile Char.isDigit
  if ds.isEmpty then (none, format) else ((String.ofList ds).toNat?, format.drop ds.length)

/-- A slot after its percent sign, and what is left; without a conversion there is none. -/
def readSlot (format : List Char) : Option (Slot × List Char) :=
  let flags := format.takeWhile "#-+ 0".toList.contains
  let rest := format.drop flags.length
  let (width, widthGiven, rest) := match rest with
    | '*' :: rest => (none, true, rest)
    | _ => let (w, rest) := readWidth rest; (w, false, rest)
  let (precision, precisionGiven, rest) := match rest with
    | '.' :: '*' :: rest => (none, true, rest)
    | '.' :: rest => let (p, rest) := readWidth rest; (some (p.getD 0), false, rest)
    | _ => (none, false, rest)
  match rest with
  | [] => none
  | c :: rest => some (⟨flags, width, widthGiven, precision, precisionGiven, c⟩, rest)

/-- What filling in a format comes to so far. -/
structure Filled where
  args : List String
  /-- What is written, in reverse. -/
  output : List Char
  /-- Complaints about arguments, the last one first. -/
  complaints : List String
  /-- Why the format cannot be filled in. -/
  failure : Option String
  /-- Whether an escape has ended all output. -/
  ended : Bool

namespace Filled

def put (f : Filled) (cs : List Char) : Filled := { f with output := cs.reverse ++ f.output }

def complain (f : Filled) (message : String) : Filled := { f with complaints := message :: f.complaints }

def outOfRange : String := "Numerical result out of range"

/-- A complaint about a number of which some text is left. -/
def judge (f : Filled) (arg : String) (left : List Char) (inRange : Bool) : Filled :=
  if left.isEmpty then
    if inRange then f else f.complain s!"{arg}: {outOfRange}"
  else if left.length = arg.length then f.complain s!"{arg}: expected numeric value"
  else f.complain s!"{arg}: not completely converted"

/-- The next argument as a text; there is always one. -/
def nextText (f : Filled) : String × Filled :=
  match f.args with
  | [] => ("", f)
  | a :: rest => (a, { f with args := rest })

/-- The next argument as a whole number within bounds. A quote in front of a character stands for its
    number. -/
def nextNumber (f : Filled) (low high : Int) : Int × Filled :=
  match f.args with
  | [] => (0, f)
  | a :: rest =>
    let f := { f with args := rest }
    match a.toList with
    | q :: c :: _ => if q = '"' || q = '\'' then (c.toNat, f) else number f a
    | [q] => if q = '"' || q = '\'' then (0, f) else number f a
    | [] => (0, f)
where
  number (f : Filled) (a : String) : Int × Filled :=
    let (n, any, left) := Arithmetic.readSigned none a.toList
    let left := if any then left else a.toList
    let n' := if n < -high ∧ low = 0 then high else max (if low = 0 then -high else low) (min high n)
    (n', f.judge a left (n' = n))

def nextFloating (f : Filled) : Double × Filled :=
  match f.args with
  | [] => (⟨false, 0⟩, f)
  | a :: rest =>
    let f := { f with args := rest }
    match a.toList with
    | q :: more =>
      if q = '"' || q = '\'' then
        (⟨false, BinaryFormat.double.ofNat ((more.head?.map Char.toNat).getD 0)⟩, f)
      else
        let (x, left) := Double.read a.toList
        (x, f.judge a left true)
    | [] => (⟨false, 0⟩, f)

/-- The slot with a width or precision from the arguments. -/
def settle (f : Filled) (s : Slot) : Slot × Filled :=
  let (s, f) :=
    if s.widthGiven then
      let (n, f) := f.nextNumber Arithmetic.smallest Arithmetic.largest
      ({ s with width := some n.natAbs, flags := if n < 0 then '-' :: s.flags else s.flags }, f)
    else (s, f)
  if s.precisionGiven then
    let (n, f) := f.nextNumber Arithmetic.smallest Arithmetic.largest
    ({ s with precision := if n < 0 then none else some n.toNat }, f)
  else (s, f)

/-- Puts the next argument into a slot. -/
def convert (f : Filled) (s : Slot) : Filled :=
  let (s, f) := f.settle s
  match s.conversion with
  | 'b' =>
    let (arg, f) := f.nextText
    let (text, goesOn) := withEscapes arg
    let f := f.put (s.text text)
    if goesOn then f else { f with ended := true }
  | 'c' =>
    let (arg, f) := f.nextText
    f.put (s.fill [(arg.toList.head?).getD '\x00'])
  | 's' =>
    let (arg, f) := f.nextText
    f.put (s.text arg)
  | 'd' | 'i' =>
    let (n, f) := f.nextNumber Arithmetic.smallest Arithmetic.largest
    f.put (s.signed (Int64.ofInt n))
  | 'o' | 'u' | 'x' | 'X' =>
    let (n, f) := f.nextNumber 0 18446744073709551615
    f.put (s.unsigned (UInt64.ofInt n))
  | 'e' | 'E' | 'f' | 'F' | 'g' | 'G' =>
    let (x, f) := f.nextFloating
    f.put (s.floating x)
  | _ => f

def conversions : List Char := "bcsdiouxXeEfFgG".toList

/-- One pass through a format. -/
def pass : (fuel : Nat) → Filled → List Char → Filled
  | 0, f, _ => f
  | _, f, [] => f
  | fuel + 1, f, '%' :: '%' :: rest => pass fuel (f.put ['%']) rest
  | fuel + 1, f, '%' :: rest =>
    match readSlot rest with
    | none => { f with failure := some "missing format character" }
    | some (s, after) =>
      if conversions.contains s.conversion then
        let f := f.convert s
        if f.ended then f else pass fuel f after
      else
        let spelled := String.ofList (rest.take (rest.length - after.length))
        { f with failure := some s!"%{spelled}: invalid directive" }
  | fuel + 1, f, '\\' :: rest =>
    let (c, rest) := readEscape rest
    pass fuel (f.put [c]) rest
  | fuel + 1, f, c :: rest => pass fuel (f.put [c]) rest

/-- Passes through a format as long as it takes arguments and some are left. -/
def passes : (fuel : Nat) → List Char → Filled → Filled
  | 0, _, f => f
  | fuel + 1, format, f =>
    let next := pass (format.length + 1) f format
    if next.failure.isSome || next.ended || next.args.isEmpty || next.args.length = f.args.length then next
    else passes fuel format next

end Filled

/-- A format filled in with arguments. -/
def fillFormat (format : String) (args : List String) : Filled :=
  Filled.passes (args.length + 1) format.toList ⟨args, [], [], none, false⟩

end KernelAudit.Shell
