/-! Text brought to a width. -/

namespace KernelAudit.Text

/-- A number with zeros before it. -/
def zeroPadded (width n : Nat) : String :=
  let digits := (toString n).toList
  String.ofList (List.replicate (width - digits.length) '0' ++ digits)

/-- A text with blanks behind it. -/
def padEnd (width : Nat) (s : String) : String :=
  s ++ String.ofList (List.replicate (width - s.length) ' ')

end KernelAudit.Text
