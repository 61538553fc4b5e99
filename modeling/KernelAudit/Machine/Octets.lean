import KernelAudit.Text.Raw

/-! Text on a machine is a sequence of bytes. A byte is kept as the character that has its number, so
    such a text is a string whose characters all lie below 256, and ASCII reads as it stands. -/

namespace KernelAudit.Octets

def ofByte (b : UInt8) : Char := Char.ofNat b.toNat

def toByte (c : Char) : UInt8 := UInt8.ofNat c.toNat

def ofBytes (bytes : List UInt8) : String := String.ofList (bytes.map ofByte)

def toBytes (s : String) : List UInt8 := s.toList.map toByte

def isAscii (s : String) : Bool := s.toList.all fun c => c.toNat < 128

/-- The bytes that spell a text. -/
def ofText (s : String) : String :=
  if isAscii s then s else ofBytes s.toUTF8.toList

def ofRaw (r : Text.Raw) : String := ofText (String.ofList r.chars) ++ ofBytes r.stray

def ofArray (bytes : ByteArray) : String := ofBytes bytes.toList

/-- Adds a text to some bytes. -/
def appendTo (bytes : ByteArray) (s : String) : ByteArray :=
  s.foldl (fun bytes c => bytes.push (toByte c)) bytes

def toArray (s : String) : ByteArray := appendTo .empty s

end KernelAudit.Octets
