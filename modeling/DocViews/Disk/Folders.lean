import DocViews.Disk.Basic

/-!
# Making folders with those above

`Disk.makeFolders` sees to it that a path is a folder.  It tries the path first and goes up only
while the folder above is missing, so folders that exist are never touched.
-/

set_option autoImplicit false

namespace DocViews
namespace Disk

variable {m : Type → Type} [Monad m] [Disk m]

/-- Makes a folder, which may exist. -/
def ensureFolder (path : Path) : m (Except DiskFault Unit) := do
  match ← Disk.makeFolder path with
  | .error .alreadyExists =>
    if ← Disk.isFolder path then return .ok () else return .error .alreadyExists
  | answer => return answer

/-- Makes the first folder of a chain; the next ones are those above it. -/
def ensureChain : List Path → m (Except DiskFault Unit)
  | [] => return .ok ()
  | path :: above => do
    match ← ensureFolder path with
    | .error .notFound =>
      match ← ensureChain above with
      | .ok () => ensureFolder path
      | .error fault => return .error fault
    | answer => return answer

/-- The paths above a path, the nearest first. -/
def pathsAbove (path : Path) : List Path :=
  let steps := path.components
  ((List.range steps.length).reverse.map fun n => Path.ofComponents (steps.take n)).filter
    (·.text ≠ [])

/-- Makes a folder and those above it, as far as they are missing.  The empty path is the working
folder. -/
def makeFolders (path : Path) : m (Except DiskFault Unit) :=
  if path.text = [] then return .ok () else ensureChain (path :: pathsAbove path)

end Disk
end DocViews
