import KernelAudit.Installation.Files
import KernelAudit.Machine.Schedule
import KernelAudit.Probe.Basic

/-! Where validators are run: a machine that is a value, with its own files, programs and clock. -/

namespace KernelAudit.Probe

open Machine

/-- A machine with the directory in which programs are started, and what they are told. -/
structure Site where
  files : FileSystem
  directory : Nat
  environment : List (String × String)

namespace Site

/-- A machine on which nothing has been done yet. -/
def fresh : Site := ⟨Installation.files, Installation.workDirectory, Installation.environment⟩

def hasZero : String := "nul byte found in provided data"

/-- The program under a path, if it can be started. -/
def programAt (site : Site) (path : String) : Except Errno String := do
  let id ← site.files.find site.directory path true
  match site.files.node? id with
  | some node =>
    match node.body with
    | .program name => if node.isExecutable then .ok name else .error .denied
    | .file _ => .error (if node.isExecutable then .badFormat else .denied)
    | _ => .error .denied
  | none => .error .noEntry

/-- The first program among some paths. Places where there is nothing are passed over, and one that is
    closed counts for more than one that is missing. -/
def firstProgram (site : Site) (e : Errno) : List String → Except Errno String
  | [] => .error e
  | path :: rest =>
    match site.programAt path with
    | .ok name => .ok name
    | .error .noEntry | .error .notDirectory => site.firstProgram e rest
    | .error .denied => site.firstProgram .denied rest
    | .error e => .error e

/-- The program that a name stands for. A name without a slash is looked for on the search path. -/
def program? (site : Site) (name : String) : Except Errno String :=
  if name.isEmpty then .error .noEntry
  else if name.toList.contains '/' then site.programAt name
  else if FileSystem.nameLimit < name.length then .error .tooLongName
  else site.firstProgram .noEntry (Tool.programPaths site.environment name)

/-- How the run of a program appears to a probe. -/
def outcome (s : Supervised) : Outcome where
  exitCode := match s.ending with
    | some (.exited status) => some (Int32.ofNat status)
    | _ => none
  timedOut := s.ending.isNone
  stdout := Text.lossy s.output
  stderr := Text.lossy s.errors
  durationMs := UInt64.ofNat (s.elapsed / 1000)

/-- Runs a validator; the files afterwards are given with its outcome. -/
def launch (site : Site) (r : Request) : Except String (Outcome × FileSystem) :=
  let name := Octets.ofRaw r.executable
  let args := r.args.map Octets.ofText
  if (name :: args).any (·.toList.contains '\x00') then .error hasZero
  else match site.program? name with
    | .error e => .error e.reason
    | .ok program =>
      match Installation.programs program with
      | none => .error (Errno.reason .badFormat)
      | some start =>
        let process : Process := start ⟨name, args, site.environment⟩ fun status => .exit (status % 256)
        let computer := Computer.boot site.files Installation.nullDevice site.directory process
        let supervised := supervise computer (r.timeoutMs.toNat * 1000)
        .ok (outcome supervised, supervised.files)

end Site

/-- Runs a validator on a machine on which nothing has been done yet. -/
def launch [Monad m] : Launcher m := fun r => pure ((Site.fresh.launch r).map (·.1))

end KernelAudit.Probe
