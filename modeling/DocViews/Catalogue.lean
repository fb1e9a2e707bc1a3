import DocViews.Disk.Basic
import DocViews.Document
import DocViews.InputPattern

/-!
# The catalogue of a run

The documents of a run are the files at any depth below the input root whose names fit the file
pattern.  Links are neither followed nor taken for files, and entries whose names begin with a point
are left out with everything below them.  The catalogue is sorted by path, and no two of its
documents may clash.
-/

set_option autoImplicit false

namespace DocViews

inductive ScanError where
  | noRoot (root : Path)
  | disk (fault : DiskFault)
  | clash (c : Document.Clash)
deriving DecidableEq, Repr

namespace ScanError

def message : ScanError → Text
  | noRoot root => "Input folder not found: ".toList ++ root.text
  | disk fault => "Directory walk failed: ".toList ++ fault.message
  | clash c => c.message

end ScanError

namespace Catalogue

variable {m : Type → Type} [Monad m] [Disk m]

def isHidden (name : Text) : Bool :=
  name.head? = some '.'

/-- Whether a file is a document of the run, by the names that lead to it. -/
def isDocument (files : FilePattern) (names : List Text) : Bool :=
  !names.any isHidden &&
    match names.getLast? with
    | some name => files.fits name
    | none => false

/-- The path at the end of a chain of names. -/
def pathOf (root : Path) (names : List Text) : Path :=
  names.foldl (fun path name => path.join ⟨name⟩) root

/-- The documents among the files below the root, in the order of their paths. -/
def documents (input : InputPattern) (conventions : Conventions) (workingFolder : Path)
    (files : List (List Text)) : List Document :=
  let described := (files.filter (isDocument input.files)).map fun names =>
    Document.describe conventions workingFolder input.root (pathOf input.root names)
  described.mergeSort fun a b => (a.path.compare b.path).isLE

/-- Collects the documents of a run. -/
def scan (input : InputPattern) (conventions : Conventions) (extension : Text) :
    m (Except ScanError (List Document)) := do
  if ← Disk.isFolder input.root then
    match ← Disk.filesBelow input.root with
    | .error fault => return .error (.disk fault)
    | .ok files =>
      let found := documents input conventions (← Disk.workingFolder) files
      match Document.firstClash? extension found with
      | some clash => return .error (.clash clash)
      | none => return .ok found
  else return .error (.noRoot input.root)

end Catalogue
end DocViews
