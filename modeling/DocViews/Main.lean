import DocViews.CommandLine

/-!
# The program

The disk of the machine, and the program that runs the command line on it.  Nothing is decided
here: each operation of `Disk` is one of the machine's, and its refusals are named.
-/

set_option autoImplicit false

namespace DocViews
namespace Machine

/-- The refusals, by the kind of the error and its number. -/
def faultOf (e : IO.Error) : DiskFault :=
  let ofCode (code : UInt32) : DiskFault :=
    if code = 20 then .notAFolder
    else if code = 21 then .isAFolder
    else if code = 36 then .nameTooLong
    else if code = 40 then .tooManyLinks
    else .other (toString e).toList
  match e with
  | .noFileOrDirectory .. => .notFound
  | .alreadyExists .. => .alreadyExists
  | .inappropriateType _ code _ => ofCode code
  | .invalidArgument _ code _ => ofCode code
  | .resourceExhausted _ code _ => ofCode code
  | .otherError code _ => ofCode code
  | _ => .other (toString e).toList

/-- A path as the machine knows it. -/
def onMachine (path : Path) :=
  (do return (← IO.currentDir) / String.ofList path.text : IO _)

/-- Does something with a path that the machine can take. -/
def withPath {α : Type} (path : Path) (act : IO α) : IO (Except DiskFault α) := do
  if path.text.contains '\x00' then return .error .badCharacter
  else if path.text = [] then return .error .notFound
  else
    try return .ok (← act)
    catch e => return .error (faultOf e)

/-- The kind of the node that a path leads to through all links. -/
def kindOf (path : Path) : IO (Except DiskFault IO.FS.FileType) :=
  withPath path do return (← (← onMachine path).metadata).type

def isKind (kind : IO.FS.FileType) (path : Path) : IO Bool := do
  match ← kindOf path with
  | .ok found => return found == kind
  | .error _ => return false

def readText (path : Path) : IO (Except DiskFault Text) := do
  match ← withPath path (do IO.FS.readBinFile (← onMachine path)) with
  | .error fault => return .error fault
  | .ok bytes =>
    match String.fromUTF8? bytes with
    | some text => return .ok text.toList
    | none => return .error .notText

/-- The names in a folder. -/
def namesIn (folder : Path) : IO (List Text) := do
  let entries ← (← onMachine folder).readDir
  return entries.toList.map fun entry => entry.fileName.toList

/-- The files at any depth below a folder. -/
partial def filesBelow (folder : Path) : IO (List (List Text)) := do
  let below ← (← namesIn folder).mapM fun name => do
    let path := folder.join ⟨name⟩
    match (← (← onMachine path).symlinkMetadata).type with
    | .file => return [[name]]
    | .dir => return (← filesBelow path).map (name :: ·)
    | _ => return []
  return below.flatten

instance : Disk IO where
  isFile path := isKind .file path
  isFolder path := isKind .dir path
  readText path := readText path
  canonical path := withPath path do
    return ⟨(← IO.FS.realPath (← onMachine path)).toString.toList⟩
  filesIn folder := withPath folder do
    (← namesIn folder).filterM fun name => isKind .file (folder.join ⟨name⟩)
  filesBelow folder := withPath folder (filesBelow folder)
  workingFolder := return ⟨(← IO.currentDir).toString.toList⟩
  makeFolder path := withPath path do IO.FS.createDir (← onMachine path)
  writeText path text := withPath path do
    IO.FS.writeFile (← onMachine path) (String.ofList text)

end Machine
end DocViews

def main (arguments : List String) : IO UInt32 := do
  let ending ← DocViews.CommandLine.run (arguments.map String.toList)
  IO.print (String.ofList ending.output)
  if ending.complaint ≠ [] then
    IO.eprintln ("Error: " ++ String.ofList ending.complaint)
  return UInt32.ofNat ending.code
