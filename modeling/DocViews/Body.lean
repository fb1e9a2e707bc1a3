import DocViews.Text.Blank

/-!
# Document bodies

The body of a document is what its view shows: the source without the metadata block, with line
feeds for line ends, and without the blank lines around it.  The body is cut from the source and
never rendered anew, so spacing and order inside it survive; the indentation of its first line too.
-/

set_option autoImplicit false

namespace DocViews
namespace Body

/-- Drops a byte order mark at the start. -/
def stripMark : Text → Text
  | [] => []
  | c :: rest => if c = '\ufeff' then rest else c :: rest

/-- Removes the lines of blanks at both ends. -/
def trimBlankLines (text : Text) : Text :=
  let kept := text.lines.dropWhile Text.isBlankText
  List.intercalate ['\n'] (kept.reverse.dropWhile Text.isBlankText).reverse

/-- The body that a source without its metadata block amounts to. -/
def ofSource (source : Text) : Text :=
  trimBlankLines (Text.unifyLineEnds source)

/-- A range of offsets in bytes. -/
structure Span where
  start : Nat
  stop : Nat
deriving DecidableEq, Repr

/-- The body of a source without a range of it.  There is none if an end of the range is inside a
character or past the end of the source. -/
def withoutSpan? (source : Text) (span : Span) : Option Text := do
  let (before, _) ← Text.splitAtByte? span.start source
  let (_, after) ← Text.splitAtByte? span.stop source
  return ofSource (before ++ after)

/-- The body of a source, without a range of it if one is given. -/
def segment? (source : Text) : Option Span → Option Text
  | none => some (ofSource source)
  | some span => withoutSpan? source span

end Body
end DocViews
