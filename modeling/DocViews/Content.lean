import DocViews.Frontmatter
import DocViews.Metadata

/-!
# What a document holds

A document is its metadata and its body.  Only the block at the top decides the metadata, and the
body is everything else.
-/

set_option autoImplicit false

namespace DocViews

structure Content where
  metadata : Metadata
  block : Option Frontmatter.Block
  body : Text
deriving DecidableEq, Repr

namespace Content

/-- Takes a document apart.  The source has no byte order mark any more. -/
def ofSource (source : Text) : Except Metadata.Problem Content :=
  match Frontmatter.find? source with
  | none => .ok ⟨{}, none, Body.ofSource source⟩
  | some block =>
    match Metadata.ofText (Frontmatter.innerText block.raw) with
    | .error problem => .error problem
    | .ok metadata => .ok ⟨metadata, some block, Body.ofSource block.remainder⟩

end Content
end DocViews
