import DocViews.Disk.Basic
import DocViews.Settings.Resolve

/-!
# Settings from the disk

The settings of a run are in a file that is given, or else in a file of a fixed name in the input
root, if there is one.
-/

set_option autoImplicit false

namespace DocViews

inductive LoadError where
  | disk (fault : DiskFault)
  | settings (e : SettingsError)
deriving DecidableEq, Repr

namespace LoadError

def message : LoadError → Text
  | disk fault => "IO error: ".toList ++ fault.message
  | settings e => e.message

end LoadError

namespace Settings

variable {m : Type → Type} [Monad m] [Disk m]

/-- The name of the settings file. -/
def fileName : Text := "docgen.toml".toList

/-- Reads a settings file, which must exist. -/
def loadFile (path : Path) : m (Except LoadError Settings) := do
  match ← Disk.readText path with
  | .error fault => return .error (.disk fault)
  | .ok text =>
    match ofText text with
    | .ok s => return .ok s
    | .error e => return .error (.settings e)

/-- Reads the settings file of an input root; without one, the stock settings hold. -/
def load (root : Path) : m (Except LoadError Settings) := do
  let path := root.join ⟨fileName⟩
  if ← Disk.isFile path then loadFile path
  else
    match resolve [] with
    | .ok s => return .ok s
    | .error e => return .error (.settings e)

end Settings
end DocViews
