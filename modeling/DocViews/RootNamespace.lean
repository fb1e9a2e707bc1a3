import DocViews.Text.Blank

/-!
# The root namespace of a project

A project descriptor declares its root namespace between two tags.  The name is what stands between
them without the blanks around it; it may hold anything but a further tag.  The first name that is
not empty counts.
-/

set_option autoImplicit false

namespace DocViews
namespace RootNamespace

def openTag : Text := "<RootNamespace>".toList

def closeTag : Text := "</RootNamespace>".toList

/-- The name that is declared at the start of a text. -/
def declared? (text : Text) : Option Text := do
  let inner ← List.isPrefixOf? openTag text
  let _ ← List.isPrefixOf? closeTag (inner.dropWhile (· ≠ '<'))
  return Text.trim (inner.takeWhile (· ≠ '<'))

/-- All names that a text declares, in order. -/
def allDeclared : Text → List Text
  | [] => []
  | c :: rest => (declared? (c :: rest)).toList ++ allDeclared rest

/-- The root namespace that a descriptor declares. -/
def ofText? (descriptor : Text) : Option Text :=
  (allDeclared descriptor).find? (· ≠ [])

end RootNamespace
end DocViews
