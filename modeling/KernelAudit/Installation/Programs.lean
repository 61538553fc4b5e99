import KernelAudit.Shell.Start
import KernelAudit.Tool.Files
import KernelAudit.Tool.Search
import KernelAudit.Tool.Surroundings

/-! The programs of a machine. Those that start other programs are given all of them. -/

namespace KernelAudit.Installation

open Machine

/-- Programs that start no others. -/
def plainPrograms : List (String × (Invocation → Action Nat)) :=
  [("true", fun _ => pure 0), ("false", fun _ => pure 1),
    ("basename", Tool.basename), ("cat", Tool.cat), ("chmod", Tool.chmod), ("cp", Tool.cp),
    ("cut", Tool.cut), ("dirname", Tool.dirname), ("echo", Tool.echo), ("expr", Tool.expr),
    ("grep", Tool.grep), ("head", Tool.head), ("hostname", Tool.hostname), ("id", Tool.identity),
    ("kill", Tool.kill), ("ln", Tool.ln), ("ls", Tool.ls), ("mkdir", Tool.mkdir), ("mv", Tool.mv),
    ("printenv", Tool.printenv), ("printf", Tool.printf), ("pwd", Tool.pwd), ("readlink", Tool.readlink),
    ("rev", Tool.rev), ("rm", Tool.rm), ("rmdir", Tool.rmdir), ("sed", Tool.sed), ("seq", Tool.seq), ("sleep", Tool.sleep),
    ("sort", Tool.sort), ("tac", Tool.tac), ("tail", Tool.tail), ("tee", Tool.tee), ("touch", Tool.touch),
    ("tr", Tool.tr), ("uname", Tool.uname), ("uniq", Tool.uniq), ("wc", Tool.wc), ("which", Tool.which),
    ("whoami", Tool.whoami), ("yes", Tool.yes)]

/-- Programs that start others. -/
def startingPrograms : List (String × (Programs → Invocation → Action Nat)) :=
  [("dash", Shell.program), ("env", Tool.env), ("nice", Tool.unchanged),
    ("nohup", Tool.unchanged), ("timeout", Tool.timeout), ("xargs", Tool.xargs)]

/-- The programs by their names. -/
def table : List (String × (Programs → Invocation → Action Nat)) :=
  startingPrograms ++ plainPrograms.map fun (name, program) => (name, fun _ => program)

/-- How many programs may become one another. -/
def depth : Nat := 1000000000

def programsFor : (fuel : Nat) → Programs
  | 0, _ => none
  | fuel + 1, name => (table.lookup name).map fun program => program (programsFor fuel)

def programs : Programs := programsFor depth

end KernelAudit.Installation
