import DocViews.ViewSource
import DocViews.Proofs.Literal.Reader

/-!
# Reading the source text of a view

The other side of `ViewSource.write`: a reader that knows the frame of a generated file and the
rules of string literals, and nothing of the document.  It cuts the text into lines of code, so all
line breaks of the language count; the lines of the frame have to be there one for one.  Only the
statement that returns the view is read by characters, since a literal may go on over several lines,
and behind it the file has to end.
-/

set_option autoImplicit false

namespace DocViews
namespace ViewSource

/-- What a generated file says. -/
structure Parts where
  imports : List Text
  nameSpace : Text
  /-- The attribute, with its brackets. -/
  attributeLine : Text
  className : Text
  baseType : Text
  /-- The type of the view that is built and the text that it shows, if one is built. -/
  view : Option (Text × Text)
deriving DecidableEq, Repr

/-! ## Lines of the frame -/

/-- A line without the word in front and the semicolon behind. -/
def readStatement? (word line : Text) : Option Text :=
  match List.isPrefixOf? word line with
  | none => none
  | some more => if more.getLast? = some ';' then some more.dropLast else none

/-- Reads the imports at the front, up to the first line that is none. -/
def readImports : List Text → List Text × List Text
  | [] => ([], [])
  | line :: rest =>
    match readStatement? "using ".toList line with
    | some name => (name :: (readImports rest).1, (readImports rest).2)
    | none => ([], line :: rest)

/-- Reads the head of a class: its name and its base type. -/
def readClass? (line : Text) : Option (Text × Text) :=
  match List.isPrefixOf? "public class ".toList line with
  | none => none
  | some more =>
    match Text.splitOnce? ' ' more with
    | none => none
    | some (name, base) => (List.isPrefixOf? [':', ' '] base).map fun base => (name, base)

/-! ## The view -/

/-- What follows the statement that returns the view. -/
def ending : Text :=
  "    \x7d\n\x7d\n".toList

/-- Reads the view that is built, from behind `return new `: a type and, in parentheses, a string
literal.  Blanks in front of the literal say nothing. -/
def readNew? (text : Text) : Option (Text × Text) :=
  match Text.splitOnce? '(' text with
  | none => none
  | some (viewType, more) =>
    match Literal.read? (Text.trimStart more) with
    | none => none
    | some (body, more) =>
      if more = ");\n".toList ++ ending then some (viewType, body) else none

/-- Reads the statement that returns the view, and the end of the file. -/
def readReturn? (text : Text) : Option (Option (Text × Text)) :=
  match List.isPrefixOf? "        return null;\n".toList text with
  | some more => if more = ending then some none else none
  | none =>
    match List.isPrefixOf? "        return new ".toList text with
    | none => none
    | some more => (readNew? more).map some

/-! ## The file -/

/-- Reads the lines behind the imports. -/
def readClassFile? (imports : List Text) : List Text → Option Parts
  | nameLine :: [] :: attributeLine :: classLine :: ['\x7b'] :: method :: start :: statement =>
    if method = "    public override object? Build()".toList ∧ start = "    \x7b".toList then do
      let nameSpace ← readStatement? "namespace ".toList nameLine
      let (className, baseType) ← readClass? classLine
      let view ← readReturn? (List.intercalate ['\n'] statement)
      some { imports, nameSpace, attributeLine, className, baseType, view }
    else none
  | _ => none

/-- Reads a generated file.  An empty line ends the imports, if there are any. -/
def read? (file : Text) : Option Parts :=
  match readImports (Literal.codeLines file) with
  | ([], lines) => readClassFile? [] lines
  | (imports, [] :: lines) => readClassFile? imports lines
  | _ => none

end ViewSource
end DocViews
