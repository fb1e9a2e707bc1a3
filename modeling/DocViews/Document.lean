import DocViews.Location
import DocViews.Settings.Basic

/-!
# Documents

What a run knows of a document before it is read: where it is, what it is called, in which order it
stands, and where its view goes.  All of this follows from the path below the input root and from
the naming conventions.

The landing document of a folder has no number of its own; it takes the number of its folder.
-/

set_option autoImplicit false

namespace DocViews

structure Document where
  /-- The path from the root of the disk. -/
  place : Path
  /-- The path below the input root. -/
  path : Path
  /-- The file name without number and extension. -/
  stem : Text
  order : Option Nat
  location : Location
deriving DecidableEq, Repr

namespace Document

/-- The number of the innermost of the folders. -/
def folderOrdinal (folders : List Text) : Option Nat :=
  folders.getLast?.bind fun name => (NumberedName.ofText name).ordinal

/-- Describes the document at a path, seen from the input root. -/
def describe (conventions : Conventions) (workingFolder root path : Path) : Document :=
  let inner := (Path.below? root path).getD path
  let name := NumberedName.ofText path.stem
  { place := Path.absolute workingFolder path
    path := inner
    stem := name.name
    order :=
      if name.name = conventions.indexName then folderOrdinal inner.folderNames else name.ordinal
    location := Location.ofNames conventions.generatedRoot inner.folderNames }

/-- The file that the view is written to, below the output root. -/
def output (d : Document) (extension : Text) : Path :=
  let name : Path := ⟨d.stem ++ ".g.".toList ++ extension⟩
  if d.location.outputFolder = [] then name else Path.join ⟨d.location.outputFolder⟩ name

def className (d : Document) : Text :=
  Identifier.className d.stem

/-- The class with the part of its namespace that depends on the document. -/
def classKey (d : Document) : Text :=
  if d.location.namespaceSuffix = [] then d.className
  else d.location.namespaceSuffix ++ '.' :: d.className

/-! ## Clashes -/

/-- What two documents have in common and must not. -/
inductive Clash where
  | output (path first second : Path)
  | className (name : Text) (first second : Path)
deriving DecidableEq, Repr

namespace Clash

def message : Clash → Text
  | output path first second =>
    first.text ++ " and ".toList ++ second.text ++ " both generate ".toList ++ path.text
  | className name first second =>
    first.text ++ " and ".toList ++ second.text ++ " both declare class ".toList ++ name

end Clash

/-- How a document clashes with one of those before it; paths are the same if they say the same. -/
def clashWith? (extension : Text) (earlier : List Document) (d : Document) : Option Clash :=
  let path := d.output extension
  match earlier.find? fun e => (e.output extension).components = path.components with
  | some e => some (.output path e.path d.path)
  | none =>
    match earlier.find? fun e => e.classKey = d.classKey with
    | some e => some (.className d.classKey e.path d.path)
    | none => none

/-- The first clash of a document with one of those before it. -/
def firstClashAfter? (extension : Text) (earlier : List Document) : List Document → Option Clash
  | [] => none
  | d :: rest =>
    match clashWith? extension earlier d with
    | some clash => some clash
    | none => firstClashAfter? extension (earlier ++ [d]) rest

/-- The first clash in a list of documents.  A document without a name is left out: it fails on its
own when its view is made. -/
def firstClash? (extension : Text) (documents : List Document) : Option Clash :=
  firstClashAfter? extension [] (documents.filter (·.stem ≠ []))

end Document
end DocViews
