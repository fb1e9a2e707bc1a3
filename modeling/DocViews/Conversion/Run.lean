import DocViews.Catalogue
import DocViews.Conversion.View
import DocViews.Disk.Folders
import DocViews.Settings.Load

/-!
# Conversion

A run makes a view of every document of its input.

* First it finds out everything that could stop it: the input pattern, the settings, the project,
  the catalogue.  Up to here nothing is written.
* Then it makes the output folder.
* Then it makes the views, each on its own: a document that fails is reported, and the others are
  made all the same.
-/

set_option autoImplicit false

namespace DocViews

/-- What a run is asked to do. -/
structure Request where
  /-- The input: a folder and a file pattern. -/
  pattern : Text
  output : Path
  /-- The project descriptor, if it is not to be looked for. -/
  descriptor : Option Path
  /-- The settings file, if it is not the one in the input root. -/
  settingsFile : Option Path
deriving DecidableEq, Repr

/-- Why a run stops before it makes any view. -/
inductive RunError where
  | input (e : InputError)
  | settings (e : LoadError)
  | project (e : ProjectError)
  | scan (e : ScanError)
  | output (fault : DiskFault)
deriving DecidableEq, Repr

namespace RunError

def message : RunError → Text
  | input e => "Scan error: ".toList ++ e.message
  | settings e => "Config error: ".toList ++ e.message
  | project e => "Project error: ".toList ++ e.message
  | scan e => "Scan error: ".toList ++ e.message
  | output fault => "IO error: ".toList ++ fault.message

end RunError

/-- What a run knows before it writes anything. -/
structure Plan where
  settings : Settings
  project : Project
  documents : List Document
deriving DecidableEq, Repr

namespace Conversion

variable {m : Type → Type} [Monad m] [Disk m]

/-! ## The plan -/

def loadSettings (request : Request) (root : Path) : m (Except LoadError Settings) :=
  match request.settingsFile with
  | some path => Settings.loadFile path
  | none => Settings.load root

def findProject (request : Request) (root : Path) (extension : Text) :
    m (Except ProjectError Project) :=
  match request.descriptor with
  | some path => Project.read path
  | none => Project.locate root extension

/-- Finds out everything that a run needs to know; nothing is written. -/
def plan (request : Request) : m (Except RunError Plan) := do
  match InputPattern.ofText request.pattern with
  | .error e => return .error (.input e)
  | .ok input =>
    match ← loadSettings request input.root with
    | .error e => return .error (.settings e)
    | .ok settings =>
      match ← findProject request input.root settings.descriptorExtension with
      | .error e => return .error (.project e)
      | .ok project =>
        match ← Catalogue.scan input settings.conventions settings.target.extension with
        | .error e => return .error (.scan e)
        | .ok documents => return .ok ⟨settings, project, documents⟩

/-! ## The views -/

/-- Writes a file, and makes the folders above it. -/
def writeBelow (path : Path) (text : Text) : m (Except DiskFault Unit) := do
  match ← Disk.makeFolders (Path.ofComponents path.folderComponents) with
  | .error fault => return .error fault
  | .ok () => Disk.writeText path text

/-- Makes the view of one document. -/
def makeView (settings : Settings) (rootNamespace : Text) (output : Path) (d : Document) :
    m (Except DocumentError GeneratedFile) := do
  if d.stem = [] then return .error .emptyName
  else
    match ← Disk.readText d.place with
    | .error fault => return .error (.disk fault)
    | .ok text =>
      match View.ofText settings rootNamespace d text with
      | .error e => return .error e
      | .ok view =>
        match ← writeBelow (output.join view.file.output) view.text with
        | .error fault => return .error (.disk fault)
        | .ok () => return .ok view.file

/-- Makes the views of documents, one after another. -/
def makeViews (settings : Settings) (rootNamespace : Text) (output : Path) :
    List Document → m (List (Document × Except DocumentError GeneratedFile))
  | [] => return []
  | d :: rest => do
    let result ← makeView settings rootNamespace output d
    return (d, result) :: (← makeViews settings rootNamespace output rest)

/-! ## The run -/

def reportOf (project : Project)
    (results : List (Document × Except DocumentError GeneratedFile)) : Report :=
  { project
    generated := results.filterMap fun result =>
      match result.2 with
      | .ok file => some file
      | .error _ => none
    failures := results.filterMap fun result =>
      match result.2 with
      | .ok _ => none
      | .error e => some ⟨result.1.path, e⟩ }

/-- Makes the output folder and the views of a plan. -/
def execute (output : Path) (plan : Plan) : m (Except RunError Report) := do
  match ← Disk.makeFolders output with
  | .error fault => return .error (.output fault)
  | .ok () =>
    let results ← makeViews plan.settings plan.project.name output plan.documents
    return .ok (reportOf plan.project results)

/-- A whole run. -/
def run (request : Request) : m (Except RunError Report) := do
  match ← plan request with
  | .error e => return .error e
  | .ok plan => execute request.output plan

end Conversion
end DocViews
