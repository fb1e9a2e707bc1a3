import DocViews.Proofs.Frontmatter.Shape

/-!
# Block and body make up the document

A block is a part of its document and its body is made of the rest, so every character that is no
blank is in one of them, once and in its place: `find?_partition`.  The range of the block always
cuts the document, and what is read as metadata is what stands between the fence lines.
-/

set_option autoImplicit false

namespace DocViews
namespace Frontmatter

open Text

/-- The range of a block is a part of its source: its ends are between characters, the block is what
stands between them, and nothing but blanks stands in front. -/
structure Block.LiesIn (block : Block) (source : Text) : Prop where
  ordered : block.span.start ≤ block.span.stop
  in_range : block.span.stop ≤ byteSize source
  cuts : ∃ before after,
    splitAtByte? block.span.start source = some (before, block.raw ++ after) ∧
      splitAtByte? block.span.stop source = some (before ++ block.raw, after) ∧
      isBlankText before = true

/-- The lines of a block are an opening fence, inner lines and a closing fence, and its inner text is
made of the inner lines. -/
def Block.IsFenced (block : Block) : Prop :=
  ∃ opening inner closing, block.raw.lines = opening :: (inner ++ [closing]) ∧
    isOpening opening = true ∧ isClosing closing = true ∧
    innerText block.raw = List.intercalate ['\n'] inner

namespace Block.Opens

variable {block : Block} {source : Text}

theorem liesIn (h : block.Opens source) : block.LiesIn source := by
  obtain ⟨hsource, hlead, -⟩ := h
  subst hsource
  rw [Block.source]
  refine ⟨Nat.le_add_right _ _, ?_, block.lead, block.rest, ?_, ?_, hlead⟩
  · rw [Block.span, byteSize_append, byteSize_append]
    exact Nat.le_add_right _ _
  · rw [List.append_assoc]
    exact splitAtByte?_byteSize _ _
  · rw [Block.span, ← byteSize_append]
    exact splitAtByte?_byteSize _ _

theorem isFenced (h : block.Opens source) : block.IsFenced := by
  obtain ⟨opening, inner, closing, hlines, hopening, hclosing⟩ := h.lines_eq
  refine ⟨opening, inner, closing, hlines, hopening, hclosing, ?_⟩
  rw [innerText, innerLines_of_lines_eq hlines hopening hclosing]

/-- The range of a block can be cut out of its source. -/
theorem segment?_span (h : block.Opens source) :
    Body.segment? source (some block.span) = some (Body.ofSource block.remainder) := by
  rw [Body.segment?, ← h.source_eq]
  exact withoutSpan?_span block

theorem nonBlank_eq (h : block.Opens source) :
    nonBlank source = nonBlank block.raw ++ nonBlank block.remainder := by
  rw [← h.source_eq, Block.source, Block.remainder, nonBlank_append, nonBlank_append,
    nonBlank_append, nonBlank_eq_nil_iff.2 h.lead_blank, List.nil_append, List.nil_append]

end Block.Opens

/-- **Block and body partition the document.**  A block that is found lies in its source, and is
fenced.  In every case there is a body, and the characters of the document that are no blanks are
those of the block followed by those of the body. -/
theorem find?_partition (source : Text) :
    (∀ block, find? source = some block → block.LiesIn source ∧ block.IsFenced) ∧
      ∃ body, Body.segment? source ((find? source).map Block.span) = some body ∧
        nonBlank source = nonBlank (((find? source).map Block.raw).getD []) ++ nonBlank body := by
  refine ⟨fun block h => ⟨(opens_of_find? h).liesIn, (opens_of_find? h).isFenced⟩, ?_⟩
  cases h : find? source with
  | none => exact ⟨Body.ofSource source, rfl, (Body.nonBlank_ofSource source).symm⟩
  | some block =>
    have hopens := opens_of_find? h
    refine ⟨Body.ofSource block.remainder, hopens.segment?_span, ?_⟩
    rw [Body.nonBlank_ofSource]
    exact hopens.nonBlank_eq

/-- Blank lines in front, blanks behind the opening fence, carriage returns, a fence of points
without a line end, and characters of several bytes. -/
theorem find?_partition_points :
    find? "\r\n---\t\r\ntitle: Über\r\n\r\n...  ".toList
        = some ⟨"\r\n".toList, "---\t\r\ntitle: Über\r\n\r\n...  ".toList, []⟩ ∧
      Block.LiesIn ⟨"\r\n".toList, "---\t\r\ntitle: Über\r\n\r\n...  ".toList, []⟩
        "\r\n---\t\r\ntitle: Über\r\n\r\n...  ".toList ∧
      Block.IsFenced ⟨"\r\n".toList, "---\t\r\ntitle: Über\r\n\r\n...  ".toList, []⟩ :=
  have hfind : find? "\r\n---\t\r\ntitle: Über\r\n\r\n...  ".toList
      = some ⟨"\r\n".toList, "---\t\r\ntitle: Über\r\n\r\n...  ".toList, []⟩ := by decide +kernel
  ⟨hfind, (find?_partition _).1 _ hfind⟩

end Frontmatter
end DocViews
