/-! Signals: what one process can tell another, and what becomes of a process that has made no
    arrangements. -/

namespace KernelAudit.Machine

/-- A signal, by its number. -/
structure Signal where
  number : Nat
  deriving DecidableEq, Repr

/-- What a signal does to a process that leaves it to the machine. -/
inductive DefaultAction where
  | terminate
  | dumpCore
  | ignore
  | stop
  | resume
  deriving DecidableEq, Repr

/-- What a process does about a signal. -/
inductive Disposition where
  | standard
  | ignored
  | caught
  deriving DecidableEq, Repr

namespace Signal

/-- The names of the signals in the order of their numbers, beginning with 1. -/
def names : List String :=
  ["HUP", "INT", "QUIT", "ILL", "TRAP", "ABRT", "BUS", "FPE", "KILL", "USR1", "SEGV", "USR2", "PIPE",
    "ALRM", "TERM", "STKFLT", "CHLD", "CONT", "STOP", "TSTP", "TTIN", "TTOU", "URG", "XCPU", "XFSZ",
    "VTALRM", "PROF", "WINCH", "POLL", "PWR", "SYS"]

/-- The last signal that exists; some of them have no name. -/
def last : Nat := 64

def interrupt : Signal := ⟨2⟩
def quit : Signal := ⟨3⟩
def kill : Signal := ⟨9⟩
def fault : Signal := ⟨11⟩
def pipe : Signal := ⟨13⟩
def terminate : Signal := ⟨15⟩
def child : Signal := ⟨17⟩
def resume : Signal := ⟨18⟩
def stop : Signal := ⟨19⟩

def ofName? (name : String) : Option Signal := (names.idxOf? name).map fun i => ⟨i + 1⟩

def defaultAction (s : Signal) : DefaultAction :=
  match s.number with
  | 3 | 4 | 5 | 6 | 7 | 8 | 11 | 24 | 25 | 31 => .dumpCore
  | 17 | 23 | 28 => .ignore
  | 18 => .resume
  | 19 | 20 | 21 | 22 => .stop
  | _ => .terminate

/-- The words for a process that the signal has ended. -/
def description (s : Signal) : String :=
  match s.number with
  | 1 => "Hangup"
  | 2 => "Interrupt"
  | 3 => "Quit"
  | 4 => "Illegal instruction"
  | 5 => "Trace/breakpoint trap"
  | 6 => "Aborted"
  | 7 => "Bus error"
  | 8 => "Floating point exception"
  | 9 => "Killed"
  | 10 => "User defined signal 1"
  | 11 => "Segmentation fault"
  | 12 => "User defined signal 2"
  | 13 => "Broken pipe"
  | 14 => "Alarm clock"
  | 15 => "Terminated"
  | 16 => "Stack fault"
  | 17 => "Child exited"
  | 18 => "Continued"
  | 19 => "Stopped (signal)"
  | 20 => "Stopped"
  | 21 => "Stopped (tty input)"
  | 22 => "Stopped (tty output)"
  | 23 => "Urgent I/O condition"
  | 24 => "CPU time limit exceeded"
  | 25 => "File size limit exceeded"
  | 26 => "Virtual timer expired"
  | 27 => "Profiling timer expired"
  | 28 => "Window changed"
  | 29 => "I/O possible"
  | 30 => "Power failure"
  | 31 => "Bad system call"
  | n => if 34 ≤ n then s!"Real-time signal {n - 34}" else s!"Unknown signal {n}"

end Signal

/-- How a process has ended. -/
inductive Ending where
  | exited (status : Nat)
  | signalled (signal : Signal)
  deriving DecidableEq, Repr

/-- The status by which a shell knows an ending. -/
def Ending.status : Ending → Nat
  | .exited status => status
  | .signalled s => 128 + s.number

end KernelAudit.Machine
