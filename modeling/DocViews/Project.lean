import DocViews.Disk.Basic
import DocViews.RootNamespace

/-!
# Projects

The views of a run live below the root namespace of a project.  Its descriptor is a file with a
certain extension; the case of ASCII letters does not matter in it.  Unless the descriptor is given,
it is looked for in the folder of the input and then in the folders above, where only a folder with
exactly one such file counts.
-/

set_option autoImplicit false

namespace DocViews

/-- The root namespace of a project, and the descriptor that declares it. -/
structure Project where
  name : Text
  descriptor : Path
deriving DecidableEq, Repr

inductive ProjectError where
  | disk (fault : DiskFault)
  | notFound (start : Path) (extension : Text)
  | noRootNamespace (descriptor : Path)
deriving DecidableEq, Repr

namespace ProjectError

def message : ProjectError → Text
  | disk fault => "IO error: ".toList ++ fault.message
  | notFound start extension =>
    "No .".toList ++ extension ++ " project file found in ".toList ++ start.text ++
      " or any parent directory".toList
  | noRootNamespace descriptor =>
    "Project file ".toList ++ descriptor.text ++ " does not declare <RootNamespace>".toList

end ProjectError

namespace Project

variable {m : Type → Type} [Monad m] [Disk m]

/-- The project that the text of a descriptor declares. -/
def ofDescriptor (descriptor : Path) (text : Text) : Except ProjectError Project :=
  match RootNamespace.ofText? text with
  | some name => .ok ⟨name, descriptor⟩
  | none => .error (.noRootNamespace descriptor)

/-- Reads a descriptor. -/
def read (descriptor : Path) : m (Except ProjectError Project) := do
  match ← Disk.readText descriptor with
  | .error fault => return .error (.disk fault)
  | .ok text => return ofDescriptor descriptor text

/-- Whether a file name has an extension, in any case. -/
def hasExtension (extension name : Text) : Bool :=
  match Path.extension? ⟨name⟩ with
  | some e => e.map Char.toLower = extension.map Char.toLower
  | none => false

/-- The descriptor among the files of a folder, if there is exactly one. -/
def onlyDescriptor? (extension : Text) (names : List Text) : Option Text :=
  match names.filter (hasExtension extension) with
  | [name] => some name
  | _ => none

/-- The folders from a path up to the root, the nearest first. -/
def foldersUp (path : Path) : List Path :=
  let steps := path.components
  (List.range steps.length).reverse.map fun n => Path.ofComponents (steps.take (n + 1))

/-- Looks for the descriptor in one folder after another. -/
def findDescriptor? (extension : Text) : List Path → m (Except DiskFault (Option Path))
  | [] => return .ok none
  | folder :: above => do
    match ← Disk.filesIn folder with
    | .error fault => return .error fault
    | .ok names =>
      match onlyDescriptor? extension names with
      | some name => return .ok (some (folder.join ⟨name⟩))
      | none => findDescriptor? extension above

/-- Looks for the descriptor from a folder upwards, and reads it. -/
def locate (start : Path) (extension : Text) : m (Except ProjectError Project) := do
  match ← Disk.canonical start with
  | .error fault => return .error (.disk fault)
  | .ok start =>
    match ← findDescriptor? extension (foldersUp start) with
    | .error fault => return .error (.disk fault)
    | .ok none => return .error (.notFound start extension)
    | .ok (some descriptor) => read descriptor

end Project
end DocViews
