/-! The reasons for which a machine refuses a request of a process. -/

namespace KernelAudit.Machine

inductive Errno where
  | notPermitted
  | noEntry
  | noProcess
  | interrupted
  | noDevice
  | badFormat
  | badDescriptor
  | noChild
  | denied
  | alreadyThere
  | crossDevice
  | notDirectory
  | isDirectory
  | invalid
  | noSpace
  | badSeek
  | brokenPipe
  | tooLongName
  | notEmpty
  | tooManyLinks
  deriving DecidableEq, Repr

namespace Errno

def number : Errno → Nat
  | notPermitted => 1
  | noEntry => 2
  | noProcess => 3
  | interrupted => 4
  | noDevice => 6
  | badFormat => 8
  | badDescriptor => 9
  | noChild => 10
  | denied => 13
  | alreadyThere => 17
  | crossDevice => 18
  | notDirectory => 20
  | isDirectory => 21
  | invalid => 22
  | noSpace => 28
  | badSeek => 29
  | brokenPipe => 32
  | tooLongName => 36
  | notEmpty => 39
  | tooManyLinks => 40

def message : Errno → String
  | notPermitted => "Operation not permitted"
  | noEntry => "No such file or directory"
  | noProcess => "No such process"
  | interrupted => "Interrupted system call"
  | noDevice => "No such device or address"
  | badFormat => "Exec format error"
  | badDescriptor => "Bad file descriptor"
  | noChild => "No child processes"
  | denied => "Permission denied"
  | alreadyThere => "File exists"
  | crossDevice => "Invalid cross-device link"
  | notDirectory => "Not a directory"
  | isDirectory => "Is a directory"
  | invalid => "Invalid argument"
  | noSpace => "No space left on device"
  | badSeek => "Illegal seek"
  | brokenPipe => "Broken pipe"
  | tooLongName => "File name too long"
  | notEmpty => "Directory not empty"
  | tooManyLinks => "Too many levels of symbolic links"

/-- The message with its number, as programs quote it. -/
def reason (e : Errno) : String := s!"{e.message} (os error {e.number})"

end Errno

end KernelAudit.Machine
