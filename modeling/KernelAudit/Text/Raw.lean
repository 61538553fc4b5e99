import KernelAudit.Text.Utf8

/-! Text from outside that need not be UTF-8, such as arguments and paths. It is kept as the characters
    up to the first gap and the bytes from there on, so what it says up to that gap can be looked at
    like any other text. -/

namespace KernelAudit.Text

structure Raw where
  chars : List Char
  /-- The bytes from the first gap on. -/
  stray : List UInt8
  deriving DecidableEq, Repr

namespace Raw

def ofString (s : String) : Raw := ⟨s.toList, []⟩

/-- Takes bytes as characters up to the first gap. `seen` holds the bytes of the character that is
    under way, the last one first. -/
def scan (under : Option Unfinished) (seen : List UInt8) : List UInt8 → Raw
  | [] => ⟨[], seen.reverse⟩
  | b :: rest =>
    match advance under b.toNat with
    | ([some c], none) =>
      let raw := scan none [] rest
      { raw with chars := c :: raw.chars }
    | ([], some u) => scan (some u) (b :: seen) rest
    | _ => ⟨[], seen.reverse ++ b :: rest⟩

def ofBytes (bytes : List UInt8) : Raw := scan none [] bytes

def isEmpty (r : Raw) : Bool := r.chars.isEmpty && r.stray.isEmpty

/-- The text, if it has no gap. -/
def text? (r : Raw) : Option String := if r.stray.isEmpty then some (String.ofList r.chars) else none

/-- The text with a replacement character for every gap. -/
def display (r : Raw) : String := String.ofList r.chars ++ lossy r.stray

/-- Whether this is exactly the given text. -/
def is (r : Raw) (s : String) : Bool := r.chars = s.toList && r.stray.isEmpty

end Raw

end KernelAudit.Text
