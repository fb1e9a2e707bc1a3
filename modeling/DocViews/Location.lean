import DocViews.Naming.Identifier
import DocViews.Naming.Ordinal
import DocViews.Path

/-!
# Where a document's view goes

The folder that holds a document, seen from the input root, decides two things: the folder below
the output root that the generated file is written to, and the namespace suffix that the file
declares.  Every folder name loses its ordinal first, and names that are empty then are dropped:

* `2_Setup/10_Install` gives the output folder `Setup/Install` and the suffix `Setup.Install`;
* `3_/2_Getting-Started` gives `Getting-Started` and `Getting_Started`.

A first name equal to the *generated root* stays in the output folder and is left out of the
namespace.
-/

set_option autoImplicit false

namespace DocViews

/-- An output folder and a namespace suffix, both empty at the input root. -/
structure Location where
  outputFolder : Text
  namespaceSuffix : Text
deriving DecidableEq, Repr

namespace Location

/-- The names of the output folder: without ordinals, and none of them empty. -/
def segmentsOf (names : List Text) : List Text :=
  (names.map fun name => (NumberedName.ofText name).name).filter (!·.isEmpty)

/-- The names that the namespace is made of. -/
def namespaceSegments (generatedRoot : Text) : List Text → List Text
  | [] => []
  | first :: rest =>
    if generatedRoot ≠ [] ∧ first = generatedRoot then rest else first :: rest

/-- The location that a chain of folder names leads to. -/
def ofNames (generatedRoot : Text) (names : List Text) : Location :=
  let segments := segmentsOf names
  { outputFolder := List.intercalate ['/'] segments
    namespaceSuffix :=
      List.intercalate ['.'] ((namespaceSegments generatedRoot segments).map Identifier.ofName) }

/-- The location of the documents in a folder; steps that are no names count for nothing. -/
def ofFolder (generatedRoot : Text) (folder : Path) : Location :=
  ofNames generatedRoot (folder.components.filterMap Component.name?)

end Location

/-- The namespace below a root: the conventional segment, then the suffix unless it is empty. -/
def fullNamespace (root apps suffix : Text) : Text :=
  if suffix = [] then root ++ '.' :: apps
  else root ++ '.' :: (apps ++ '.' :: suffix)

end DocViews
