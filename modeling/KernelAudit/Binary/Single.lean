import KernelAudit.Binary.Format

/-! Numbers of thirty-two bits as the kernels compute with them: a sign bit and the code of a
    magnitude. Every sum and product is the exact one rounded once. Comparison is by value, so both
    zeros are equal and no number is equal to a number that is not one. -/

namespace KernelAudit

/-- A number of thirty-two bits, given by its bit pattern. -/
structure Single where
  bits : UInt32
  deriving DecidableEq, Repr, Inhabited

namespace Single

/-- What a bit pattern stands for; the flag is the sign. -/
inductive Value where
  | nan
  | infinity (negative : Bool)
  | zero (negative : Bool)
  | finite (negative : Bool) (magnitude : Magnitude)
  deriving DecidableEq, Repr

/-- The number with the given sign and magnitude code. -/
def ofCode (negative : Bool) (code : Nat) : Single :=
  ⟨UInt32.ofNat (code + if negative then 0x80000000 else 0)⟩

def nan : Single := ⟨0x7fc00000⟩
def zero : Single := ofCode false 0

/-- The nearest number to a whole number. -/
def ofNat (n : Nat) : Single := ofCode false (BinaryFormat.single.ofNat n)

def negative (x : Single) : Bool := decide (0x80000000 ≤ x.bits.toNat)

/-- The code of the magnitude, infinity and what lies above it included. -/
def code (x : Single) : Nat := x.bits.toNat % 0x80000000

def value (x : Single) : Value :=
  if x.code = 0 then .zero x.negative
  else if x.code < BinaryFormat.single.infinity then
    .finite x.negative (BinaryFormat.single.decode x.code)
  else if x.code = BinaryFormat.single.infinity then .infinity x.negative
  else .nan

def isNaN (x : Single) : Bool := x.value = .nan

/-- The nearest number to `± m * 2 ^ e`, the sign being that of `m`; an exact zero is positive. -/
def ofSigned (m : Int) (e : Int) : Single :=
  ofCode (decide (m < 0)) (BinaryFormat.single.ofMagnitude ⟨m.natAbs, e⟩)

/-- A magnitude over a smaller power of two, with its sign. -/
def signedOver (negative : Bool) (m : Magnitude) (e : Int) : Int :=
  if negative then -(m.multiple e : Int) else m.multiple e

def mul (x y : Single) : Single :=
  match x.value, y.value with
  | .nan, _ | _, .nan => nan
  | .infinity _, .zero _ | .zero _, .infinity _ => nan
  | .infinity a, .infinity b | .infinity a, .finite b _ | .finite a _, .infinity b =>
    ofCode (a != b) BinaryFormat.single.infinity
  | .zero a, .zero b | .zero a, .finite b _ | .finite a _, .zero b => ofCode (a != b) 0
  | .finite a m, .finite b n => ofCode (a != b) (BinaryFormat.single.ofMagnitude (m.mul n))

def add (x y : Single) : Single :=
  match x.value, y.value with
  | .nan, _ | _, .nan => nan
  | .infinity a, .infinity b => if a = b then x else nan
  | .infinity _, _ => x
  | _, .infinity _ => y
  | .zero a, .zero b => ofCode (a && b) 0
  | .zero _, .finite _ _ => y
  | .finite _ _, .zero _ => x
  | .finite a m, .finite b n =>
    let e := min m.exponent n.exponent
    ofSigned (signedOver a m e + signedOver b n e) e

instance : Mul Single := ⟨mul⟩
instance : Add Single := ⟨add⟩

/-- Equality of values: both zeros are equal, and what is not a number equals nothing. -/
def same (x y : Single) : Bool :=
  match x.value, y.value with
  | .nan, _ | _, .nan => false
  | .zero _, .zero _ => true
  | _, _ => x = y

end Single

end KernelAudit
