import DocViews.Path
import DocViews.Text.Keyed

/-!
# Trees of files

What a disk holds: files, folders, and links, which are paths.  A *place* in a tree is the chain of
names from the top.

## What is here

* `Node.get?`, `Node.put`, `Node.erase` — the node at a place, and trees with another one there.
* `Node.filesBelow` — the chains of names that lead to files without following a link.
-/

set_option autoImplicit false

namespace DocViews

/-- What a file holds: a text in UTF-8, or octets that are none. -/
inductive FileContent where
  | text (t : Text)
  | octets (bytes : List UInt8)
deriving DecidableEq, Repr

inductive Node where
  | file (content : FileContent)
  | link (target : Path)
  | folder (entries : List (Text × Node))

/-- A chain of names from the top of a tree. -/
abbrev Place := List Text

namespace Node

/-- The folder with nothing in it. -/
def emptyFolder : Node := .folder []

def isFile : Node → Bool
  | .file _ => true
  | _ => false

def isFolder : Node → Bool
  | .folder _ => true
  | _ => false

/-! ## Nodes at places -/

/-- The node at a place. -/
def get? : Place → Node → Option Node
  | [], node => some node
  | name :: rest, .folder entries =>
    match entries.lookup name with
    | some child => get? rest child
    | none => none
  | _ :: _, _ => none

/-- The tree with a node at a place.  Missing folders on the way are made; a file or a link on the
way keeps the tree as it is. -/
def put (new : Node) : Place → Node → Node
  | [], _ => new
  | name :: rest, .folder entries =>
    .folder (Keyed.set name (put new rest ((entries.lookup name).getD emptyFolder)) entries)
  | _ :: _, node => node

/-- The tree without the node at a place. -/
def erase : Place → Node → Node
  | [], node => node
  | [name], .folder entries => .folder (entries.filter (·.1 ≠ name))
  | name :: rest, .folder entries =>
    match entries.lookup name with
    | some child => .folder (Keyed.set name (erase rest child) entries)
    | none => .folder entries
  | _ :: _, node => node

/-! ## All files -/

mutual

/-- The chains of names that lead from a node to a file. -/
def filesBelow : Node → List Place
  | .file _ => [[]]
  | .link _ => []
  | .folder entries => filesInEntries entries

def filesInEntries : List (Text × Node) → List Place
  | [] => []
  | (name, node) :: rest => (filesBelow node).map (name :: ·) ++ filesInEntries rest

end

end Node
end DocViews
