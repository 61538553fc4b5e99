/-! Bytes as UTF-8 text. Characters are decoded byte by byte; a run of bytes that begins a character
    without completing it, or that can begin none, counts as one gap. -/

namespace KernelAudit.Text

/-- A character of which some bytes have been seen: how many are owed, the range that the next one has
    to lie in, and the bits so far. -/
structure Unfinished where
  owed : Nat
  low : Nat
  high : Nat
  bits : Nat
  deriving DecidableEq, Repr

/-- What one more byte amounts to: the characters and gaps that are now complete, and the character
    that is under way. -/
abbrev Progress := List (Option Char) × Option Unfinished

/-- The first byte of a character. No character has two spellings, and halves of surrogate pairs have
    none. -/
def begin (b : Nat) : Progress :=
  if b < 0x80 then ([some (Char.ofNat b)], none)
  else if b < 0xc2 then ([none], none)
  else if b < 0xe0 then ([], some ⟨1, 0x80, 0xbf, b % 0x20⟩)
  else if b = 0xe0 then ([], some ⟨2, 0xa0, 0xbf, 0⟩)
  else if b = 0xed then ([], some ⟨2, 0x80, 0x9f, 0xd⟩)
  else if b < 0xf0 then ([], some ⟨2, 0x80, 0xbf, b % 0x10⟩)
  else if b = 0xf0 then ([], some ⟨3, 0x90, 0xbf, 0⟩)
  else if b < 0xf4 then ([], some ⟨3, 0x80, 0xbf, b % 8⟩)
  else if b = 0xf4 then ([], some ⟨3, 0x80, 0x8f, 4⟩)
  else ([none], none)

/-- A byte after what has been seen; one that does not continue a character begins the next. -/
def advance (under : Option Unfinished) (b : Nat) : Progress :=
  match under with
  | none => begin b
  | some u =>
    if u.low ≤ b ∧ b ≤ u.high then
      let bits := u.bits * 0x40 + b % 0x40
      if u.owed ≤ 1 then ([some (Char.ofNat bits)], none)
      else ([], some ⟨u.owed - 1, 0x80, 0xbf, bits⟩)
    else
      let (done, under) := begin b
      (none :: done, under)

/-- What some bytes have come to: the text so far, and the character that is under way. -/
structure Decoded where
  text : String
  under : Option Unfinished

/-- The character that stands for a gap. -/
def replacement : Char := '\ufffd'

/-- Adds what one more byte amounts to. -/
def Decoded.add (d : Decoded) (b : UInt8) : Decoded :=
  let (done, under) := advance d.under b.toNat
  ⟨done.foldl (fun s c => s.push (c.getD replacement)) d.text, under⟩

/-- The text of a run of bytes, with a replacement character for every gap. -/
def lossy (bytes : List UInt8) : String :=
  let d := bytes.foldl Decoded.add ⟨"", none⟩
  if d.under.isSome then d.text.push replacement else d.text

end KernelAudit.Text
