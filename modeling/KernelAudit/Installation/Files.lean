import KernelAudit.Installation.Programs
import KernelAudit.Machine.FileSystem

/-! The files of a machine before anything has been done on it: the usual directories, the devices, the
    programs, and a few texts. -/

namespace KernelAudit.Installation

open Machine

def directories : List String :=
  ["/boot", "/dev", "/dev/fd", "/dev/pts", "/dev/shm", "/etc", "/etc/default", "/etc/init.d", "/etc/opt", "/home",
    "/media", "/mnt", "/opt", "/proc", "/root", "/run", "/run/lock", "/srv", "/sys", "/tmp", "/usr", "/usr/bin",
    "/usr/games", "/usr/include", "/usr/lib", "/usr/lib64", "/usr/libexec", "/usr/local", "/usr/local/bin",
    "/usr/local/etc", "/usr/local/games", "/usr/local/include", "/usr/local/lib", "/usr/local/sbin",
    "/usr/local/share", "/usr/local/src", "/usr/sbin", "/usr/share", "/usr/share/doc", "/usr/share/man",
    "/usr/src", "/var", "/var/backups", "/var/cache", "/var/lib", "/var/local", "/var/log", "/var/mail",
    "/var/opt", "/var/spool", "/var/tmp"]

/-- Links with what they stand for. -/
def links : List (String × String) :=
  [("/bin", "usr/bin"), ("/lib", "usr/lib"), ("/lib64", "usr/lib64"), ("/sbin", "usr/sbin"),
    ("/usr/bin/sh", "dash"), ("/var/run", "/run"), ("/var/lock", "/run/lock")]

def devices : List (String × Device) :=
  [("/dev/null", .null), ("/dev/zero", .zero), ("/dev/full", .full), ("/dev/random", .random),
    ("/dev/urandom", .random), ("/dev/tty", .terminal), ("/dev/stdin", .stream 0), ("/dev/stdout", .stream 1),
    ("/dev/stderr", .stream 2)] ++
  (List.range 10).map fun n => (s!"/dev/fd/{n}", .stream n)

/-- Texts that are there from the start. -/
def texts : List (String × String) :=
  [("/etc/passwd",
      "root:x:0:0:root:/root:/bin/bash\ndaemon:x:1:1:daemon:/usr/sbin:/usr/sbin/nologin\n" ++
      "bin:x:2:2:bin:/bin:/usr/sbin/nologin\nsys:x:3:3:sys:/dev:/usr/sbin/nologin\n" ++
      "nobody:x:65534:65534:nobody:/nonexistent:/usr/sbin/nologin\n"),
    ("/etc/group", "root:x:0:\ndaemon:x:1:\nbin:x:2:\nsys:x:3:\nnogroup:x:65534:\n"),
    ("/etc/shadow", "root:*:19000:0:99999:7:::\n"),
    ("/etc/hostname", "localhost\n"),
    ("/etc/hosts", "127.0.0.1\tlocalhost\n"),
    ("/etc/fstab", "# no file systems\n"),
    ("/etc/issue", "Linux \\n \\l\n"),
    ("/etc/profile", "# settings for all users\n"),
    ("/etc/resolv.conf", "nameserver 127.0.0.1\n"),
    ("/etc/os-release", "NAME=Linux\n"),
    ("/etc/shells", "/bin/sh\n/usr/bin/sh\n/bin/dash\n/usr/bin/dash\n"),
    ("/proc/cpuinfo", "processor\t: 0\n"),
    ("/proc/meminfo", "MemTotal: 8388608 kB\n"),
    ("/proc/uptime", "1.00 1.00\n"),
    ("/proc/version", "Linux version\n")]

/-- Adds a node under a path, if its directory is there and the name is free. -/
def place (fs : FileSystem) (path : String) (body : Nat → Body) (mode : Nat) : FileSystem :=
  match fs.place? FileSystem.root path with
  | .ok (some p) => if (fs.entry? p).isSome then fs else (fs.add p ⟨body p.directory, mode, 0⟩).2
  | _ => fs

/-- The directory that programs are run in. -/
def workplace : String := "/tmp/work"

/-- The tree of files. -/
def files : FileSystem :=
  let fs := directories.foldl (fun fs path => place fs path (.directory · []) 0o755) FileSystem.bare
  let fs := links.foldl (fun fs (path, target) => place fs path (fun _ => .link target) 0o777) fs
  let fs := devices.foldl (fun fs (path, device) => place fs path (fun _ => .device device) 0o666) fs
  let fs := table.foldl (fun fs (name, _) => place fs s!"/usr/bin/{name}" (fun _ => .program name) 0o755) fs
  let fs := texts.foldl (fun fs (path, text) => place fs path (fun _ => .file (Octets.toArray text)) 0o644) fs
  place fs workplace (.directory · []) 0o755

/-- The number of a node by its path; the root stands in for what there is not. -/
def nodeAt (path : String) : Nat := (files.find FileSystem.root path true).toOption.getD FileSystem.root

def nullDevice : Nat := nodeAt "/dev/null"
def workDirectory : Nat := nodeAt workplace

/-- What programs are told of their surroundings. -/
def environment : List (String × String) := [("PATH", Shell.defaultPath), ("HOME", "/root")]

end KernelAudit.Installation
