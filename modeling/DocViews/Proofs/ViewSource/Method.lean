import DocViews.Proofs.Body.Trimming
import DocViews.Proofs.ViewSource.RoundTrip

/-!
# Reading the method of a view

A run that knows its settings knows how long the frame of a generated file is (`frame`), and what
the type of its views is called.  What stands behind the frame is read by `readBuilt?`: the method
builds nothing, or it builds a view around a string literal, and then the file ends.

Nothing is asked of the names here.  A settings value that could be taken for code makes no
difference to where the frame ends, so the statement is read back under all settings
(`readBuilt?_returnStatement`).
-/

set_option autoImplicit false

namespace DocViews
namespace ViewSource

/-- The lines of a generated file in front of the statement that returns the view. -/
def frame (target : Target) (nameSpace className : Text) (order : Int) (metadata : Metadata) :
    Text :=
  (importBlock target.imports ++ frameLines nameSpace (attributeLine order metadata target)
    className (baseType metadata target)).flatMap line

/-- Reads the text that a view of the type is built around, and the end of the file; there is none
if nothing is built. -/
def readBuilt? (viewType statement : Text) : Option (Option Text) :=
  match List.isPrefixOf? "        return null;\n".toList statement with
  | some more => if more = ending then some none else none
  | none =>
    match List.isPrefixOf? ("        return new ".toList ++ viewType ++ ['(']) statement with
    | none => none
    | some more =>
      match Literal.read? (Text.trimStart more) with
      | none => none
      | some (body, more) => if more = closing then some (some body) else none

/-- **The statement that returns the view is read back** by whoever knows the type of the view. -/
theorem readBuilt?_returnStatement (viewType body : Text) :
    readBuilt? viewType (returnStatement viewType body ++ ending)
      = some (if body = [] then none else some body) := by
  by_cases hbody : body = []
  · rw [returnStatement, if_pos hbody, if_pos hbody]
    rfl
  · obtain ⟨blanks, hblank, -, heq⟩ := returnStatement_eq hbody viewType
    generalize hliteral : Literal.format bodyIndent body = literal at heq
    have hnew : returnStatement viewType body ++ ending
        = ("        return new ".toList ++ viewType ++ ['(']) ++ (blanks ++ (literal ++ closing)) := by
      rw [heq, closing]
      simp only [List.append_assoc, List.cons_append, List.nil_append]
    have hnull : List.isPrefixOf? "        return null;\n".toList
        (("        return new ".toList ++ viewType ++ ['(']) ++ (blanks ++ (literal ++ closing)))
        = none := rfl
    have hquote : literal.head? = some '"' := hliteral ▸ Literal.head?_format bodyIndent body
    have hread : Literal.read? (literal ++ closing) = some (body, closing) :=
      hliteral ▸ read?_literal body
    rw [if_neg hbody, hnew, readBuilt?, hnull]
    simp only [Text.isPrefixOf?_append, trimStart_append_literal hblank hquote, hread, if_true]

/-- What a generated file builds is its body, unless the body is empty. -/
theorem exists_readBuilt?_write (target : Target) (nameSpace className : Text) (order : Int)
    (metadata : Metadata) (body : Text) :
    ∃ statement, write target nameSpace className order metadata body
        = frame target nameSpace className order metadata ++ statement ∧
      readBuilt? target.viewType statement = some (if body = [] then none else some body) :=
  ⟨_, write_eq target nameSpace className order metadata body,
    readBuilt?_returnStatement target.viewType body⟩

end ViewSource
end DocViews
