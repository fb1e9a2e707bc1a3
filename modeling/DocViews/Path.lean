import DocViews.Text.Basic

/-!
# Paths

A path is the text it was written with.  What it *says* are its components: empty segments and
points inside a path say nothing, so `a//b/./c` and `a/b/c` have the same components, while two
points stay because only the disk knows what is above a linked folder.  A path is a text, so names of
files that are not UTF-8 are left out.

## What is here

* `Path.components` — what the path says, the view in which paths are compared.
* `Path.fileName?`, `Path.stem`, `Path.extension?` — the last name and its two halves.
* `Path.join`, `Path.ofComponents` — building longer paths.
* `Path.below?` — the part of a path below a folder, written as it was.
* `Path.absolute` — the path as seen from the root of the disk.
-/

set_option autoImplicit false

namespace DocViews

/-- A path, as written. -/
structure Path where
  text : Text
deriving DecidableEq, Repr

/-- One step of a path. -/
inductive Component where
  | root
  | here
  | parent
  | name (text : Text)
deriving DecidableEq, Repr

namespace Component

def text : Component → Text
  | root => ['/']
  | here => ['.']
  | parent => ['.', '.']
  | name text => text

def name? : Component → Option Text
  | name text => some text
  | _ => none

/-- The kinds of step in their order. -/
def rank : Component → Nat
  | root => 0
  | here => 1
  | parent => 2
  | name _ => 3

/-- Steps are compared by kind, names among themselves by their characters. -/
def compare (a b : Component) : Ordering :=
  match a, b with
  | name s, name t => Ord.compare s t
  | _, _ => Ord.compare a.rank b.rank

end Component

namespace Path

/-- The pieces between the slashes. -/
def segments (path : Path) : List Text :=
  List.splitOn '/' path.text

def isAbsolute (path : Path) : Bool :=
  path.text.head? = some '/'

/-- A segment that says nothing inside a path. -/
def isSilent (segment : Text) : Bool :=
  segment = [] || segment = ['.']

/-- What a segment inside a path says. -/
def component? (segment : Text) : Option Component :=
  if isSilent segment then none
  else if segment = ['.', '.'] then some .parent
  else some (.name segment)

/-- The steps that a path says.  The first segment of an absolute path is the root, and a point at
the very start of a relative path counts. -/
def components (path : Path) : List Component :=
  match path.segments with
  | [] => []
  | first :: rest =>
    let start : List Component :=
      if path.isAbsolute then [.root]
      else if first = ['.'] then [.here]
      else (component? first).toList
    start ++ rest.filterMap component?

/-- Paths are sorted step by step, so a folder's contents stay together. -/
def compare (a b : Path) : Ordering :=
  List.compareLex Component.compare a.components b.components

/-! ## Names -/

/-- The last name, if the path ends in one. -/
def fileName? (path : Path) : Option Text :=
  path.components.getLast?.bind Component.name?

/-- A file name cut at its last point.  A point in front cuts nothing, and neither do two points
that are the whole name. -/
def splitName? (name : Text) : Option (Text × Text) :=
  if name = ['.', '.'] then none
  else
    match Text.splitOnce? '.' name.reverse with
    | some (extension, stem) => if stem = [] then none else some (stem.reverse, extension.reverse)
    | none => none

/-- The file name up to its last point; empty when the path ends in no name. -/
def stem (path : Path) : Text :=
  match path.fileName? with
  | none => []
  | some name => ((splitName? name).map Prod.fst).getD name

/-- The part of the file name after its last point. -/
def extension? (path : Path) : Option Text :=
  path.fileName?.bind fun name => (splitName? name).map Prod.snd

/-- The steps to the folder that holds the last one. -/
def folderComponents (path : Path) : List Component :=
  path.components.dropLast

/-- The names among the steps to the folder. -/
def folderNames (path : Path) : List Text :=
  path.folderComponents.filterMap Component.name?

/-! ## Building paths -/

/-- A path below another.  An absolute path replaces the first one. -/
def join (folder path : Path) : Path :=
  if path.isAbsolute then path
  else if folder.text = [] || folder.text.getLast? = some '/' then ⟨folder.text ++ path.text⟩
  else ⟨folder.text ++ '/' :: path.text⟩

/-- Writes steps one below the other. -/
def ofComponents (steps : List Component) : Path :=
  steps.foldl (fun path step => path.join ⟨step.text⟩) ⟨[]⟩

/-- The path at an absolute place, given by the names from the root. -/
def ofPlace (names : List Text) : Path :=
  ⟨'/' :: List.intercalate ['/'] names⟩

/-! ## The part below a folder -/

/-- Drops the silent segments at the end. -/
def trimSilent (segments : List Text) : List Text :=
  (segments.reverse.dropWhile isSilent).reverse

/-- Drops the segments of so many steps, and the silent ones around them. -/
def dropSteps : Nat → List Text → List Text
  | 0, segments => segments.dropWhile isSilent
  | n + 1, segments => dropSteps n (segments.dropWhile isSilent).tail

/-- The path without silent segments at its end. -/
def withoutTail (path : Path) : Path :=
  match path.segments with
  | [] => path
  | first :: rest =>
    if path.isAbsolute then ⟨'/' :: List.intercalate ['/'] (trimSilent rest)⟩
    else if first = ['.'] then ⟨List.intercalate ['/'] (first :: trimSilent rest)⟩
    else ⟨List.intercalate ['/'] (trimSilent (first :: rest))⟩

/-- What a path says below a folder, if its steps begin with the folder's.  Inside, the segments
stay as they were written. -/
def below? (folder path : Path) : Option Path :=
  let steps := folder.components
  if steps.isPrefixOf path.components then
    match steps.length with
    | 0 => some path.withoutTail
    | n + 1 => some ⟨List.intercalate ['/'] (trimSilent (dropSteps n path.segments.tail))⟩
  else none

/-! ## Absolute paths -/

/-- The path from the root of the disk: silent segments go, two points stay.  Exactly two slashes in
front and a slash at the end keep their meaning. -/
def absolute (workingFolder : Path) (path : Path) : Path :=
  if path.text = [] then path else
  let steps := path.components
  let start : Path :=
    if path.isAbsolute then
      match path.text with
      | '/' :: '/' :: '/' :: _ => ⟨['/']⟩
      | '/' :: '/' :: _ => ⟨['/', '/']⟩
      | _ => ⟨['/']⟩
    else workingFolder
  let below := steps.filter fun step => step != .root && step != .here
  let full := below.foldl (fun p step => p.join ⟨step.text⟩) start
  if path.text.getLast? = some '/' then full.join ⟨[]⟩ else full

end Path
end DocViews
