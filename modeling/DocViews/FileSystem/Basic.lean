import DocViews.FileSystem.Resolve

/-!
# Reading and writing a disk

The operations on a disk that a run is made of, as functions on `FileSystem`.  Those that read
answer about the disk as it is, and those that write give the disk after the change; a refused
change has no disk after it.
-/

set_option autoImplicit false

namespace DocViews
namespace FileSystem

/-! ## Reading -/

def isFile (fs : FileSystem) (path : Path) : Bool :=
  match fs.node path with
  | .ok node => node.isFile
  | .error _ => false

def isFolder (fs : FileSystem) (path : Path) : Bool :=
  match fs.node path with
  | .ok node => node.isFolder
  | .error _ => false

def readContent (fs : FileSystem) (path : Path) : Except DiskFault FileContent :=
  match fs.node path with
  | .error fault => .error fault
  | .ok (.file content) => .ok content
  | .ok _ => .error .isAFolder

def readText (fs : FileSystem) (path : Path) : Except DiskFault Text :=
  match fs.readContent path with
  | .error fault => .error fault
  | .ok (.text t) => .ok t
  | .ok (.octets _) => .error .notText

/-- The path of the same node without links and points. -/
def canonical (fs : FileSystem) (path : Path) : Except DiskFault Path :=
  match fs.spot true path with
  | .error fault => .error fault
  | .ok (.free _ _) => .error .notFound
  | .ok (.taken place) => .ok (Path.ofPlace place)

/-- The names in a folder that lead to files, through links too. -/
def filesIn (fs : FileSystem) (folder : Path) : Except DiskFault (List Text) :=
  match fs.node folder with
  | .error fault => .error fault
  | .ok (.folder entries) =>
    .ok ((entries.map Prod.fst).filter fun name => fs.isFile (folder.join ⟨name⟩))
  | .ok _ => .error .notAFolder

/-- The files at any depth below a folder, without following links. -/
def filesBelow (fs : FileSystem) (folder : Path) : Except DiskFault (List Place) :=
  match fs.node folder with
  | .error fault => .error fault
  | .ok (.folder entries) => .ok (Node.filesInEntries entries)
  | .ok _ => .error .notAFolder

/-! ## Writing -/

/-- The path without slashes at its end; the root keeps one. -/
def withoutSlashes (path : Path) : Path :=
  let kept := (path.text.reverse.dropWhile (· = '/')).reverse
  if kept = [] then ⟨path.text.take 1⟩ else ⟨kept⟩

/-- The spot of the entry that a path names: a link at the end is not followed, and slashes at the
end say nothing.  They count for the length of the path. -/
def entrySpot (fs : FileSystem) (path : Path) : Except DiskFault Spot :=
  if path.text.contains '\x00' then .error .badCharacter
  else if pathSizeLimit ≤ Text.byteSize path.text then .error .nameTooLong
  else fs.spot false (withoutSlashes path)

/-- The disk with another tree. -/
def withNode (fs : FileSystem) (place : Place) (node : Node) : FileSystem :=
  { fs with tree := Node.put node place fs.tree }

/-- Enters a node under a free name. -/
def make (fs : FileSystem) (node : Node) (path : Path) : Except DiskFault FileSystem :=
  match fs.entrySpot path with
  | .error fault => .error fault
  | .ok (.taken _) => .error .alreadyExists
  | .ok (.free folder name) => .ok (fs.withNode (folder ++ [name]) node)

def makeFolder (fs : FileSystem) (path : Path) : Except DiskFault FileSystem :=
  fs.make .emptyFolder path

/-- Writes a file, a new one or over what an old one held.  A slash at the end asks for a folder. -/
def write (fs : FileSystem) (path : Path) (content : FileContent) : Except DiskFault FileSystem :=
  if path.text.getLast? = some '/' then
    match fs.entrySpot path with
    | .error fault => .error fault
    | .ok _ => .error .isAFolder
  else
    match fs.spot true path with
    | .error fault => .error fault
    | .ok (.free folder name) => .ok (fs.withNode (folder ++ [name]) (.file content))
    | .ok (.taken place) =>
      match fs.tree.get? place with
      | some (.file _) => .ok (fs.withNode place (.file content))
      | _ => .error .isAFolder

/-- Makes a link. -/
def link (fs : FileSystem) (path target : Path) : Except DiskFault FileSystem :=
  fs.make (.link target) path

/-- Removes a file, a link, or a folder with everything in it. -/
def remove (fs : FileSystem) (path : Path) : Except DiskFault FileSystem :=
  match fs.entrySpot path with
  | .error fault => .error fault
  | .ok (.free _ _) => .error .notFound
  | .ok (.taken place) => .ok { fs with tree := Node.erase place fs.tree }

/-! ## Listing -/

mutual

/-- Everything below a node with the place of each entry; a folder has no content, and the content
of a link is given by its place. -/
def listNode (contentOf : Place → FileContent) (place : Place) :
    Node → List (Place × Option FileContent)
  | .file content => [(place, some content)]
  | .link _ => [(place, some (contentOf place))]
  | .folder entries => (place, none) :: listEntries contentOf place entries

def listEntries (contentOf : Place → FileContent) (place : Place) :
    List (Text × Node) → List (Place × Option FileContent)
  | [] => []
  | (name, node) :: rest =>
    listNode contentOf (place ++ [name]) node ++ listEntries contentOf place rest

end

/-- Everything below a folder by the path from there; the paths of folders end in a slash, and a
link that leads to no file is empty. -/
def listing? (fs : FileSystem) (folder : Path) : Option (List (Text × Option FileContent)) :=
  match fs.spot true folder with
  | .ok (.taken place) =>
    match fs.tree.get? place with
    | some (.folder entries) =>
      let contentOf (below : Place) : FileContent :=
        match fs.readContent (Path.ofPlace (place ++ below)) with
        | .ok content => content
        | .error _ => .text []
      some ((listEntries contentOf [] entries).map fun (below, content) =>
        (List.intercalate ['/'] below ++ (if content.isNone then ['/'] else []), content))
    | _ => none
  | _ => none

end FileSystem
end DocViews
