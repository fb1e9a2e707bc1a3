import DocViews.Content
import DocViews.Document
import DocViews.Report
import DocViews.ViewSource

/-!
# From a document to its view

What the text of a document amounts to, without a disk: the text of the generated file and the
entry for the report, or the reason why there is no view.
-/

set_option autoImplicit false

namespace DocViews

/-- A generated file, and its text. -/
structure View where
  file : GeneratedFile
  text : Text
deriving DecidableEq, Repr

namespace View

/-- Passes a base type that the metadata declares if it is a type name. -/
def checkBase (metadata : Metadata) : Except DocumentError Unit :=
  match Metadata.declared metadata.viewBase with
  | none => .ok ()
  | some name => if Identifier.isDottedPath name then .ok () else .error (.badViewBase name)

/-- The view of a document with its content. -/
def ofContent (settings : Settings) (rootNamespace : Text) (d : Document) (content : Content) :
    View :=
  let order := resolveOrder settings.precedence (d.order.map Int.ofNat) content.metadata.order
  let nameSpace :=
    fullNamespace rootNamespace settings.target.appsSegment d.location.namespaceSuffix
  { file := {
      source := d.path
      output := d.output settings.target.extension
      nameSpace
      className := d.className
      order
      metadataOnly := content.body.isEmpty }
    text :=
      ViewSource.write settings.target nameSpace d.className order content.metadata content.body }

/-- The view of a document whose file holds a text. -/
def ofText (settings : Settings) (rootNamespace : Text) (d : Document) (text : Text) :
    Except DocumentError View :=
  match Content.ofSource (Body.stripMark text) with
  | .error problem => .error (.metadata problem)
  | .ok content =>
    match checkBase content.metadata with
    | .error e => .error e
    | .ok () => .ok (ofContent settings rootNamespace d content)

end View
end DocViews
