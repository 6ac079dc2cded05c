import CameraControl.Terminal.FileTree

/-
  The files that a command can read.

  A command sees of the files only what it reads at a path. The plainest such files are those of a
  working directory with nothing around it but the usual directories of a system, of which only the
  null device is a file: it is always empty.
-/

namespace CameraControl.Terminal

/-- Files to read. -/
structure Files where
  /-- The text of the file at a path, if there is one that can be read. -/
  read? : String → Option String

namespace Files

/-- How many bytes a path can have. -/
def longestPath : Nat := 4095

/-- The directory that holds the devices. -/
def devices : FileTree :=
  .directory [("null", .file ""), ("shm", .directory []), ("pts", .directory [])]

/-- The names of the other directories that are found at the top of a system. -/
def topDirectories : List String :=
  ["boot", "etc", "home", "media", "mnt", "opt", "proc", "root", "run", "srv", "sys", "tmp",
    "usr", "var"]

/-- The directory above all others. -/
def topDirectory : FileTree :=
  .directory (("dev", devices) :: topDirectories.map fun name => (name, .directory []))

/-- A working directory with some files. It lies in a directory at the top of the system, and
    nothing else can be reached by the names of the two. -/
def workingDirectory (entries : List (String × String)) : FileTree.Place where
  here := .directory (entries.map fun e => (e.1, .file e.2))
  above := [.directory [], topDirectory]

/-- The files of a working directory, given by their names and texts. A path that begins with a
    slash leads down from the top. -/
def ofDirectory (entries : List (String × String)) : Files where
  read? path :=
    let start := if path.toList.head? = some '/' then ⟨topDirectory, []⟩
      else workingDirectory entries
    if path.utf8ByteSize ≤ longestPath then
      (start.goAlong? (FileTree.partsOfPath path)).bind fun place => place.here.text?
    else none

end Files

end CameraControl.Terminal
