import DebugAdapter.Environment.Files.Tree

/-! # The usual tree of files

The directories, devices and accounts that programs expect to find. -/

namespace DebugAdapter.Files.Tree

/-- The place that a path names which goes over no links. -/
def place (path : String) : List Name := (names (Utf8.encode path)).filter (· ≠ [])

def usualDirectories : List String :=
  ["/boot", "/dev", "/etc", "/home", "/media", "/mnt", "/opt", "/proc", "/root", "/run", "/srv",
    "/sys", "/tmp", "/usr", "/usr/bin", "/usr/lib", "/usr/lib64", "/usr/local", "/usr/local/bin",
    "/usr/sbin", "/usr/share", "/var", "/var/log", "/var/tmp"]

def usualLinks : List (String × String) :=
  [("/bin", "/usr/bin"), ("/lib", "/usr/lib"), ("/lib64", "/usr/lib64"), ("/sbin", "/usr/sbin")]

/-- Files that can be read. -/
def usualFiles : List (String × String) :=
  [("/etc/group", "root:x:0:\n"), ("/etc/hostname", "localhost\n"), ("/etc/hosts", "127.0.0.1\tlocalhost\n"),
    ("/etc/passwd", "root:x:0:0:root:/root:/bin/bash\nnobody:x:65534:65534:nobody:/nonexistent:\n")]

/-- The tree, given the first bytes of a program and the names of the programs. -/
def usual (mark : Bytes) (programs : List String) : Tree where
  entries :=
    usualDirectories.map (fun path => (place path, .directory)) ++
    usualLinks.map (fun (path, target) => (place path, .link (place target))) ++
    usualFiles.map (fun (path, text) => (place path, .file (Utf8.encode text) false)) ++
    [(place "/dev/null", .null), (place "/dev/zero", .zeros), (place "/dev/full", .full)] ++
    programs.map (fun name => (place ("/usr/bin/" ++ name), .file mark true)) ++
    [(place "/usr/bin/sh", .link (place "/usr/bin/dash"))]

end DebugAdapter.Files.Tree
