import KernelAudit.Probe.Site
import KernelAudit.Program.Run

/-! The program on a real machine. External validators are run on a machine of their own, which is a
    value. -/

namespace KernelAudit

open Text (Raw)

/-- The words of the system for an error. -/
def systemReason (e : IO.Error) : String :=
  match e with
  | .noFileOrDirectory .. | .noSuchThing .. => Machine.Errno.reason .noEntry
  | .permissionDenied .. => Machine.Errno.reason .denied
  | .inappropriateType .. => Machine.Errno.reason .isDirectory
  | e => toString e

/-- The outcome of an action, with the system's words if it fails. -/
def attempt (act : IO α) : IO (Except String α) := do
  match ← act.toBaseIO with
  | .ok a => return .ok a
  | .error e => return .error (systemReason e)

/-- The content of a file without the blanks around it, if there is any. -/
def line? (path : String) : IO (Option String) := do
  match ← attempt (IO.FS.readFile path) with
  | .ok text =>
    let text := text.trimAscii.toString
    return if text.isEmpty then none else some text
  | .error _ => return none

def readHostname : IO (Option String) := do
  if let some name ← line? "/etc/hostname" then return some name
  if let some name ← line? "/proc/sys/kernel/hostname" then return some name
  match ← IO.getEnv "HOSTNAME" with
  | some "" | none => return none
  | some name => return some name

/-- Seconds since 1970: the time at which the machine was started, and how long ago that was. -/
def readTimestamp : IO UInt64 := do
  let some stat ← line? "/proc/stat" | return 0
  let some uptime ← line? "/proc/uptime" | return 0
  let started := (stat.splitOn "\n").findSome? fun l =>
    match l.splitOn " " with
    | ["btime", n] => n.toNat?
    | _ => none
  let running := ((uptime.splitOn ".").head?.bind String.toNat?).getD 0
  return UInt64.ofNat (started.getD 0 + running)

def realHost : Host IO where
  hostname := readHostname
  timestamp := readTimestamp
  clock := return UInt64.ofNat (← IO.monoMsNow)
  entropy := do
    let bytes ← IO.getRandomBytes 32
    return .ofFn fun i => (bytes.toList.drop (4 * i)).take 4 |>.foldr (fun b n => n * 256 + b.toUInt32) 0

def realSystem : System IO where
  host := realHost
  kernels := Backend.kernels
  launch := Probe.launch
  readFile path := attempt (IO.FS.readBinFile path.display)
  writeFile path content := attempt (IO.FS.writeFile path.display content)
  print s := ExceptT.mk (attempt (IO.print s))
  printError s := ExceptT.mk (attempt (IO.eprint s))
  sink :=
    { put := fun c => ExceptT.mk (attempt (IO.print (String.singleton c)))
      flush := ExceptT.mk (attempt (do (← IO.getStdout).flush)) }

/-- The variables that the program looks at. -/
def watchedVariables : List String :=
  noColorVariable ::
    (CommandLine.globalOptions ++ CommandLine.sortOptions).filterMap CommandLine.ValueOption.env

def readEnvironment : IO Environment := do
  let found ← watchedVariables.filterMapM fun name => do
    return (← IO.getEnv name).map fun value => (name, Raw.ofString value)
  return fun name => found.lookup name

end KernelAudit

def main (args : List String) : IO UInt32 := do
  let argv := ("refcheck" :: args).map KernelAudit.Text.Raw.ofString
  let env ← KernelAudit.readEnvironment
  return (← KernelAudit.Program.run KernelAudit.realSystem env argv).toUInt32
