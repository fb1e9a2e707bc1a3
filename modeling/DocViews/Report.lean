import DocViews.Disk.Fault
import DocViews.Metadata
import DocViews.Project
import DocViews.Text.Quoted

/-!
# The report of a run

A run that gets past its first checks makes a view of each document or fails at it, and reports on
both.  The listing shows the files by namespace, in each namespace by order and class name, then
the failures, and at the end how many there were.

    Root namespace: Acme.Docs (from Docs.csproj)

    Acme.Docs.Apps
        001 WelcomeApp → Welcome.g.cs
    Acme.Docs.Apps.Setup
        002 _IndexApp → Setup/_Index.g.cs (metadata only)

    Failed
        2_Bad.md: Invalid frontmatter YAML: ...

    Generated 2 of 3 files; 1 failed
-/

set_option autoImplicit false

namespace DocViews

/-- A file that has been written. -/
structure GeneratedFile where
  /-- The document, below the input root. -/
  source : Path
  /-- The file, below the output root. -/
  output : Path
  nameSpace : Text
  className : Text
  order : Int
  /-- Whether the document had no body. -/
  metadataOnly : Bool
deriving DecidableEq, Repr

/-- Why no view was made of a document. -/
inductive DocumentError where
  | emptyName
  | disk (fault : DiskFault)
  | metadata (problem : Metadata.Problem)
  | badViewBase (name : Text)
deriving DecidableEq, Repr

namespace DocumentError

def message : DocumentError → Text
  | emptyName => "File name is empty once the ordinal prefix is removed".toList
  | disk fault => "IO error: ".toList ++ fault.message
  | metadata problem => problem.message
  | badViewBase name => "viewBase ".toList ++ Text.quoted name ++ " is not a valid type name".toList

end DocumentError

structure Failure where
  source : Path
  error : DocumentError
deriving DecidableEq, Repr

structure Report where
  project : Project
  generated : List GeneratedFile
  failures : List Failure
deriving DecidableEq, Repr

namespace GeneratedFile

/-- The order of the listing. -/
def compareListed (a b : GeneratedFile) : Ordering :=
  (compare a.nameSpace b.nameSpace).then
    ((compare a.order b.order).then (compare a.className b.className))

end GeneratedFile

namespace Report

def total (r : Report) : Nat :=
  r.generated.length + r.failures.length

def succeeded (r : Report) : Bool :=
  r.failures.isEmpty

/-! ## The listing -/

/-- A path in the listing has slashes only. -/
def shownPath (path : Path) : Text :=
  path.text.map fun c => if c = '\\' then '/' else c

def indent : Text :=
  List.replicate 4 ' '

def fileLine (file : GeneratedFile) : Text :=
  indent ++ Digits.padded 3 file.order ++ ' ' :: file.className ++ " → ".toList ++
    shownPath file.output ++ (if file.metadataOnly then " (metadata only)".toList else [])

def failureLine (failure : Failure) : Text :=
  indent ++ shownPath failure.source ++ ": ".toList ++ failure.error.message

/-- The files in the order of the listing. -/
def listed (files : List GeneratedFile) : List GeneratedFile :=
  files.mergeSort fun a b => (a.compareListed b).isLE

/-- The lines of sorted files: each namespace stands once, above its files. -/
def fileLines (above : Option Text) : List GeneratedFile → List Text
  | [] => []
  | file :: rest =>
    let header : List Text := if above = some file.nameSpace then [] else [file.nameSpace]
    header ++ fileLine file :: fileLines (some file.nameSpace) rest

def rootLine (project : Project) : Text :=
  "Root namespace: ".toList ++ project.name ++ " (from ".toList ++
    (project.descriptor.fileName?.getD []) ++ [')']

def summary (r : Report) : Text :=
  if r.succeeded then
    "Generated ".toList ++ Digits.ofNat r.generated.length ++ " files successfully!".toList
  else
    "Generated ".toList ++ Digits.ofNat r.generated.length ++ " of ".toList ++
      Digits.ofNat r.total ++ " files; ".toList ++ Digits.ofNat r.failures.length ++
      " failed".toList

def lines (r : Report) : List Text :=
  let files : List Text :=
    if r.generated = [] then [] else [] :: fileLines none (listed r.generated)
  let failures : List Text :=
    if r.failures = [] then [] else [] :: "Failed".toList :: r.failures.map failureLine
  rootLine r.project :: (files ++ failures ++ [[], r.summary])

/-- What is said of a run with failures. -/
def failureMessage (r : Report) : Text :=
  Digits.ofNat r.failures.length ++ " of ".toList ++ Digits.ofNat r.total ++
    " documents failed to generate".toList

end Report
end DocViews
