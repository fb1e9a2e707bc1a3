import DocViews.Disk.Fault
import DocViews.FileSystem.Tree

/-!
# From paths to places

A path is followed segment by segment.  Silent segments stay, two points go up to the real folder
above, and a link is replaced by its target, which starts from the folder that holds the link.  So
a place is never behind a link, and links are counted: after forty of them the search gives up.

A path leads to a *spot*: a place that holds a node, or a free name in a folder.
-/

set_option autoImplicit false

namespace DocViews

/-- Where a path leads to. -/
inductive Spot where
  | taken (place : Place)
  /-- A name that the folder does not have. -/
  | free (folder : Place) (name : Text)
deriving DecidableEq, Repr

namespace Spot

def place : Spot → Place
  | taken place => place
  | free folder name => folder ++ [name]

end Spot

/-- A disk: a tree, and the folder from which relative paths are seen. -/
structure FileSystem where
  tree : Node
  workingFolder : Place

namespace FileSystem

/-- The longest name, in bytes. -/
def maxNameSize : Nat := 255

/-- Paths are shorter than this, in bytes. -/
def pathSizeLimit : Nat := 4096

/-- How many links a path may lead through. -/
def maxLinks : Nat := 40

/-- Follows segments from a place on.  What happens at a link is up to `onLink`; a link at the end
is a node like others unless `followLast` says to go on. -/
def follow (tree : Node) (followLast : Bool)
    (onLink : List Text → Place → Except DiskFault Spot) :
    List Text → Place → Except DiskFault Spot
  | [], place => .ok (.taken place)
  | segment :: rest, place =>
    match tree.get? place with
    | some (.folder entries) =>
      if Path.isSilent segment then follow tree followLast onLink rest place
      else if segment = ['.', '.'] then follow tree followLast onLink rest place.dropLast
      else if maxNameSize < Text.byteSize segment then .error .nameTooLong
      else
        match entries.lookup segment with
        | none => if rest = [] then .ok (.free place segment) else .error .notFound
        | some (.link target) =>
          if rest = [] && !followLast then .ok (.taken (place ++ [segment]))
          else onLink (target.segments ++ rest) (if target.isAbsolute then [] else place)
        | some _ => follow tree followLast onLink rest (place ++ [segment])
    | _ => .error .notAFolder

/-- Follows segments through so many links at most. -/
def followLinks (tree : Node) (followLast : Bool) :
    Nat → List Text → Place → Except DiskFault Spot
  | 0 => follow tree followLast fun _ _ => .error .tooManyLinks
  | n + 1 => follow tree followLast (followLinks tree followLast n)

/-- The spot that a path leads to. -/
def spot (fs : FileSystem) (followLast : Bool) (path : Path) : Except DiskFault Spot :=
  if path.text.contains '\x00' then .error .badCharacter
  else if path.text = [] then .error .notFound
  else if pathSizeLimit ≤ Text.byteSize path.text then .error .nameTooLong
  else
    followLinks fs.tree followLast maxLinks path.segments
      (if path.isAbsolute then [] else fs.workingFolder)

/-- The node that a path leads to through all links. -/
def node (fs : FileSystem) (path : Path) : Except DiskFault Node :=
  match fs.spot true path with
  | .error fault => .error fault
  | .ok (.free _ _) => .error .notFound
  | .ok (.taken place) =>
    match fs.tree.get? place with
    | some found => .ok found
    | none => .error .notFound

end FileSystem
end DocViews
