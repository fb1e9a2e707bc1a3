import DocViews.Disk.Fault
import DocViews.FileSystem.Basic

/-!
# Disks

The operations that a run needs of a disk.  A run is written over any monad that has them: with
`StateM FileSystem` it is a function from one disk to the next, about which theorems can be stated,
and with `IO` it works on the disk of the machine.
-/

set_option autoImplicit false

namespace DocViews

class Disk (m : Type → Type) where
  /-- Whether a path leads to a file, through links too. -/
  isFile : Path → m Bool
  /-- Whether a path leads to a folder, through links too. -/
  isFolder : Path → m Bool
  readText : Path → m (Except DiskFault Text)
  /-- The path of the same node without links and points. -/
  canonical : Path → m (Except DiskFault Path)
  /-- The names in a folder that lead to files, through links too. -/
  filesIn : Path → m (Except DiskFault (List Text))
  /-- The files at any depth below a folder, by the names on the way; links are not followed. -/
  filesBelow : Path → m (Except DiskFault (List (List Text)))
  /-- The folder from which relative paths are seen. -/
  workingFolder : m Path
  /-- Makes one folder, whose name must be free. -/
  makeFolder : Path → m (Except DiskFault Unit)
  /-- Writes a file, a new one or over what an old one held. -/
  writeText : Path → Text → m (Except DiskFault Unit)

namespace FileSystem

/-- An answer about the disk as it is. -/
def ask {α : Type} (question : FileSystem → α) : StateM FileSystem α :=
  fun fs => (question fs, fs)

/-- A change of the disk; a refused change leaves the disk as it is. -/
def change (step : FileSystem → Except DiskFault FileSystem) :
    StateM FileSystem (Except DiskFault Unit) := fun fs =>
  match step fs with
  | .ok next => (.ok (), next)
  | .error fault => (.error fault, fs)

instance : Disk (StateM FileSystem) where
  isFile path := ask (·.isFile path)
  isFolder path := ask (·.isFolder path)
  readText path := ask (·.readText path)
  canonical path := ask (·.canonical path)
  filesIn path := ask (·.filesIn path)
  filesBelow path := ask (·.filesBelow path)
  workingFolder := ask fun fs => Path.ofPlace fs.workingFolder
  makeFolder path := change (·.makeFolder path)
  writeText path text := change (·.write path (.text text))

end FileSystem
end DocViews
