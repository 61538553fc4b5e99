import KernelAudit.Shell.Builtin.Options
import KernelAudit.Shell.Printing

/-! The printing commands. Each answers its status. -/

namespace KernelAudit.Shell.Session

def echoCommand (words : List String) : Session Nat := do
  print (echoText words)
  return 0

def printfCommand (words : List String) : Session Nat := do
  match ← noOptions words with
  | [] => fail "usage: printf format [arg ...]"
  | format :: args =>
    let filled := fillFormat format args
    print (String.ofList filled.output.reverse)
    each warn filled.complaints.reverse
    if let some problem := filled.failure then fail problem
    return if filled.complaints.isEmpty then 0 else 1

end KernelAudit.Shell.Session
