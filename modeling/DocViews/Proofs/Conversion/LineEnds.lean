import DocViews.Conversion.View
import DocViews.Proofs.Frontmatter.LineEnds
import DocViews.Proofs.Frontmatter.Partition

/-!
# Line ends do not matter

The block of a document is in the same place whether its lines end in line feeds or also in carriage
returns.  So its inner lines are the same, and the body that is left comes out the same, which makes
the same view of the document: `view_withReturns`.
-/

set_option autoImplicit false

namespace DocViews

open Frontmatter

theorem Body.ofSource_withReturns {source : Text} (h : '\r' ∉ source) :
    ofSource source.withReturns = ofSource source := by
  rw [ofSource, Text.unifyLineEnds_withReturns h, ofSource, Text.unifyLineEnds_of_notMem h]

theorem Body.stripMark_withReturns (source : Text) :
    stripMark source.withReturns = (stripMark source).withReturns := by
  cases source with
  | nil => rfl
  | cons c rest =>
    by_cases hc : c = '\n'
    · rw [hc]
      rfl
    · rw [Text.withReturns_cons_of_ne hc, stripMark, stripMark]
      split
      · rfl
      · rw [Text.withReturns_cons_of_ne hc]

theorem Body.return_notMem_stripMark {source : Text} (h : '\r' ∉ source) :
    '\r' ∉ stripMark source := by
  cases source with
  | nil => exact h
  | cons c rest =>
    rw [stripMark]
    split
    · exact fun hmem => h (List.mem_cons_of_mem _ hmem)
    · exact h

/-- A document with carriage returns holds the same, and has its block in the same place. -/
theorem Content.ofSource_withReturns {source : Text} (h : '\r' ∉ source) :
    ofSource source.withReturns
      = (ofSource source).map fun content =>
        { content with block := content.block.map Block.withReturns } := by
  rw [ofSource, ofSource, find?_withReturns]
  cases hfind : find? source with
  | none => rw [Option.map_none, Body.ofSource_withReturns h]; rfl
  | some block =>
    obtain ⟨hraw, hremainder⟩ := return_notMem_of_find? h hfind
    rw [Option.map_some]
    simp only [Block.remainder_withReturns, Body.ofSource_withReturns hremainder]
    rw [Block.withReturns, innerText_withReturns hraw]
    cases Metadata.ofText (innerText block.raw) <;> rfl

/-- A view is made of what the document holds, wherever its block is. -/
theorem View.ofText_withReturns {text : Text} (h : '\r' ∉ text) (settings : Settings)
    (rootNamespace : Text) (d : Document) :
    ofText settings rootNamespace d text.withReturns = ofText settings rootNamespace d text := by
  rw [ofText, ofText, Body.stripMark_withReturns,
    Content.ofSource_withReturns (Body.return_notMem_stripMark h)]
  cases Content.ofSource (Body.stripMark text) <;> rfl

/-- The same body is cut out of both documents. -/
theorem Body.segment?_withReturns {source : Text} (h : '\r' ∉ source) :
    segment? source.withReturns ((find? source.withReturns).map Block.span)
      = segment? source ((find? source).map Block.span) := by
  rw [find?_withReturns]
  cases hfind : find? source with
  | none => exact congrArg some (ofSource_withReturns h)
  | some block =>
    obtain ⟨-, hremainder⟩ := return_notMem_of_find? h hfind
    have hcrlf : find? source.withReturns = some block.withReturns := by
      rw [find?_withReturns, hfind, Option.map_some]
    rw [Option.map_some, Option.map_some, Option.map_some, (opens_of_find? hfind).segment?_span,
      (opens_of_find? hcrlf).segment?_span, Block.remainder_withReturns,
      ofSource_withReturns hremainder]

/-- **Line ends do not matter.**  With a carriage return before every line feed, a document has a
block if it had one before, with the same inner text; the same metadata are read, or reading them
fails for the same reason; the same body is left; and the same view is made. -/
theorem view_withReturns {source : Text} (h : '\r' ∉ source) :
    (find? source.withReturns).map (fun block => innerText block.raw)
        = (find? source).map (fun block => innerText block.raw) ∧
      (Content.ofSource source.withReturns).map (fun content => (content.metadata, content.body))
        = (Content.ofSource source).map (fun content => (content.metadata, content.body)) ∧
      (∃ body, Body.segment? source ((find? source).map Block.span) = some body ∧
        Body.segment? source.withReturns ((find? source.withReturns).map Block.span) = some body) ∧
      ∀ (settings : Settings) (rootNamespace : Text) (d : Document),
        View.ofText settings rootNamespace d source.withReturns
          = View.ofText settings rootNamespace d source := by
  refine ⟨?_, ?_, ?_, View.ofText_withReturns h⟩
  · rw [find?_withReturns]
    cases hfind : find? source with
    | none => rfl
    | some block =>
      exact congrArg some (innerText_withReturns (return_notMem_of_find? h hfind).1)
  · rw [Content.ofSource_withReturns h]
    cases Content.ofSource source <;> rfl
  · rw [Body.segment?_withReturns h]
    cases hfind : find? source with
    | none => exact ⟨Body.ofSource source, rfl, rfl⟩
    | some block =>
      exact ⟨_, (opens_of_find? hfind).segment?_span, (opens_of_find? hfind).segment?_span⟩

/-- The block and the body of a document with both kinds of fence and blank lines. -/
theorem view_withReturns_welcome :
    '\r' ∉ "\n---\ntitle: Welcome\n...\n\n# Hi\n\n".toList ∧
      (find? (Text.withReturns "\n---\ntitle: Welcome\n...\n\n# Hi\n\n".toList)).map
        (fun block => innerText block.raw) = some "title: Welcome".toList :=
  have hreturn : '\r' ∉ "\n---\ntitle: Welcome\n...\n\n# Hi\n\n".toList := by decide +kernel
  ⟨hreturn, (view_withReturns hreturn).1.trans (by decide +kernel)⟩

end DocViews
