import DocViews.Text.Basic
import DocViews.Text.Letter

/-!
# Identifiers

A display name becomes an identifier of the generated code by writing an underscore for every
character that is neither a word character nor an underscore, and one more underscore in front of a
leading digit.  A *dotted path* is a sequence of identifiers with points between them.
-/

set_option autoImplicit false

namespace DocViews
namespace Identifier

/-- The characters that stay as they are. -/
def isIdentifierChar (c : Char) : Bool :=
  isWordChar c || c = '_'

def sanitizeChar (c : Char) : Char :=
  if isIdentifierChar c then c else '_'

/-- An underscore goes in front of a leading ASCII digit. -/
def guardDigit : Text → Text
  | [] => []
  | c :: rest => if c.isDigit then '_' :: c :: rest else c :: rest

/-- The identifier made from a display name.  Only the empty name has an empty identifier. -/
def ofName (name : Text) : Text :=
  guardDigit (name.map sanitizeChar)

/-- A name that needs no repair. -/
def isIdentifier (name : Text) : Bool :=
  !name.isEmpty && ofName name == name

/-- One or more identifiers with points between them. -/
def isDottedPath (name : Text) : Bool :=
  (List.splitOn '.' name).all isIdentifier

/-- The name of the class that shows a document. -/
def className (stem : Text) : Text :=
  ofName stem ++ "App".toList

end Identifier
end DocViews
