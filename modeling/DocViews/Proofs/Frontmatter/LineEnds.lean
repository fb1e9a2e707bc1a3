import DocViews.Proofs.Frontmatter.Shape
import DocViews.Proofs.Text.LineEnds

/-!
# Blocks of documents with carriage returns

A document may be written with line feeds, or with a carriage return before each of them.  Its block
is found in the same place (`find?_withReturns`): every test that the search makes of a line has the
same answer, because a carriage return before a line feed is a line end, a blank, and no part of a
fence.
-/

set_option autoImplicit false

namespace DocViews
namespace Frontmatter

open Text

/-- The block of a document that has a carriage return before every line feed. -/
def Block.withReturns (block : Block) : Block :=
  ⟨Text.withReturns block.lead, Text.withReturns block.raw, Text.withReturns block.rest⟩

/-! ## Lines -/

theorem fromFirstLine_withReturns (line rest : Text) :
    fromFirstLine (withReturns line) (withReturns rest) = withReturns (fromFirstLine line rest) := by
  induction rest generalizing line with
  | nil => rfl
  | cons c more ih =>
    by_cases hc : c = '\n'
    · -- the two characters of the line end are skipped one after the other
      subst hc
      have hnewline : isLineEnd '\n' = true := rfl
      have hreturn : isLineEnd '\r' = true := rfl
      rw [withReturns_newline_cons, fromFirstLine, if_pos hreturn, fromFirstLine, if_pos hnewline,
        fromFirstLine, if_pos hnewline, ih]
    · rw [withReturns_cons_of_ne hc, fromFirstLine, fromFirstLine]
      split
      · exact ih more
      · split
        · exact ih line
        · rfl

theorem isBlankLine_withReturns (piece : Text) :
    isBlankLine (withReturns piece) = isBlankLine piece := by
  rw [isBlankLine, isBlankLine, dropWhile_withReturns rfl rfl]
  cases piece.dropWhile isLineSpace with
  | nil => rfl
  | cons c rest =>
    by_cases hc : c = '\n'
    · rw [hc]
      rfl
    · rw [withReturns_cons_of_ne hc]

theorem newline_notMem_take_of_isPrefixOf {fence piece : Text} (hfence : '\n' ∉ fence)
    (h : fence.isPrefixOf piece = true) : '\n' ∉ piece.take fence.length := by
  obtain ⟨rest, rfl⟩ := List.isPrefixOf_iff_prefix.1 h
  rwa [List.take_left]

theorem fenceLength?_withReturns (piece : Text) :
    fenceLength? (withReturns piece) = fenceLength? piece := by
  rw [fenceLength?, fenceLength?, isPrefixOf_withReturns (by decide) (by decide),
    isPrefixOf_withReturns (by decide) (by decide)]
  split
  · next hfence =>
    have hstart : '\n' ∉ piece.take 3 := by
      rw [Bool.or_eq_true] at hfence
      rcases hfence with hfence | hfence
      · exact newline_notMem_take_of_isPrefixOf (by decide) hfence
      · exact newline_notMem_take_of_isPrefixOf (by decide) hfence
    generalize hspaces : (piece.drop 3).takeWhile (· = ' ') = spaces
    have hsame : ((withReturns piece).drop 3).takeWhile (· = ' ') = spaces := by
      rw [drop_withReturns hstart, takeWhile_withReturns rfl rfl, hspaces]
    have hrest : '\n' ∉ (piece.drop 3).take spaces.length := by
      rw [← hspaces, ← List.prefix_iff_eq_take.1 (List.takeWhile_prefix _)]
      exact fun hmem => absurd (List.mem_takeWhile_imp hmem) (by decide)
    rw [hsame]
    simp only
    rw [← List.drop_drop, drop_withReturns hstart, drop_withReturns hrest, ← List.drop_drop]
    cases (piece.drop 3).drop spaces.length with
    | nil => rfl
    | cons c rest =>
      by_cases hc : c = '\n'
      · rw [hc]
        rfl
      · rw [withReturns_cons_of_ne hc]
  · rfl

/-- The lines are cut at the same fence. -/
theorem cutAtFence?_withReturns (lines : List Text) :
    cutAtFence? (lines.map withReturns)
      = (cutAtFence? lines).map fun cut => (withReturns cut.1, withReturns cut.2) := by
  induction lines with
  | nil => rfl
  | cons piece more ih =>
    rw [List.map_cons, cutAtFence?, cutAtFence?, fenceLength?_withReturns]
    cases hn : fenceLength? piece with
    | none =>
      simp only
      rw [ih, Option.map_map, Option.map_map]
      congr 1
      funext cut
      exact Prod.ext (withReturns_append _ _).symm rfl
    | some n =>
      have hnewline := newline_notMem_take_of_fenceLength? hn
      simp only [Option.map_some, withReturns_append, withReturns_flatten, take_withReturns hnewline,
        drop_withReturns hnewline, withReturns_of_notMem hnewline]

/-! ## Blocks -/

theorem emptyBlock?_withReturns (source : Text) :
    emptyBlock? (withReturns source) = (emptyBlock? source).map Block.withReturns := by
  rw [emptyBlock?, emptyBlock?, pieces_withReturns]
  cases hpieces : pieces source with
  | nil => rfl
  | cons opening rest =>
    cases rest with
    | nil => rfl
    | cons closing more =>
      have hend : ∀ piece ∈ opening :: closing :: more,
          trimEnd (withReturns piece) = trimEnd piece :=
        fun piece h => trimEnd_withReturns_of_mem_pieces (hpieces ▸ h)
      have hopening : isOpening (withReturns opening) = isOpening opening := by
        rw [isOpening, isOpening, hend opening List.mem_cons_self]
      have hclosing : isClosing (withReturns closing) = isClosing closing := by
        rw [isClosing, isClosing, hend closing (List.mem_cons_of_mem _ List.mem_cons_self)]
      simp only [List.map_cons, hopening, hclosing]
      split
      · rw [Option.map_some, Block.withReturns, withReturns_append, withReturns_flatten]
        rfl
      · rfl

/-- What stands in front of the first line ends there. -/
theorem take_withReturns_fromFirstLine (source : Text) :
    (withReturns source).take
        ((withReturns source).length - (withReturns (fromFirstLine source source)).length)
      = withReturns (source.take (source.length - (fromFirstLine source source).length)) := by
  obtain ⟨hsource, -⟩ := take_append_fromFirstLine source
  have hboth : withReturns source
      = withReturns (source.take (source.length - (fromFirstLine source source).length))
        ++ withReturns (fromFirstLine source source) := by
    rw [← withReturns_append, hsource]
  rw [hboth, List.length_append, Nat.add_sub_cancel, List.take_left]

theorem filledBlock?_withReturns (source : Text) :
    filledBlock? (withReturns source) = (filledBlock? source).map Block.withReturns := by
  rw [filledBlock?, filledBlock?]
  simp only [fromFirstLine_withReturns, pieces_withReturns, take_withReturns_fromFirstLine]
  cases pieces (fromFirstLine source source) with
  | nil => rfl
  | cons opening rest =>
    cases rest with
    | nil => rfl
    | cons first more =>
      simp only [List.map_cons, isBlankLine_withReturns, fenceLength?_withReturns,
        cutAtFence?_withReturns,
        isPrefixOf_withReturns (show '\n' ∉ hyphens by decide) (by decide)]
      by_cases hhyphens : hyphens.isPrefixOf opening = true
      · have hstart : '\n' ∉ opening.take 3 :=
          newline_notMem_take_of_isPrefixOf (by decide) hhyphens
        rw [drop_withReturns hstart, all_withReturns rfl]
        split
        · rw [Option.map_map, Option.map_map]
          congr 1
          funext cut
          simp only [Function.comp_apply, Block.withReturns, withReturns_append]
        · rfl
      · rw [Bool.not_eq_true] at hhyphens
        simp only [hhyphens, Bool.false_and, Bool.false_eq_true, if_false, Option.map_none]

theorem find?_withReturns (source : Text) :
    find? (withReturns source) = (find? source).map Block.withReturns := by
  rw [find?_eq, find?_eq, emptyBlock?_withReturns, filledBlock?_withReturns]
  cases emptyBlock? source <;> rfl

/-! ## What is read from a block, and what is left for the body -/

theorem innerText_withReturns {raw : Text} (h : '\r' ∉ raw) :
    innerText (withReturns raw) = innerText raw := by
  rw [innerText, innerLines, lines_withReturns h, innerText, innerLines]

theorem Block.remainder_withReturns (block : Block) :
    block.withReturns.remainder = Text.withReturns block.remainder :=
  (withReturns_append block.lead block.rest).symm

/-- A block and the rest of its document hold no characters of their own. -/
theorem return_notMem_of_find? {source : Text} {block : Block} (h : '\r' ∉ source)
    (hfind : find? source = some block) : '\r' ∉ block.raw ∧ '\r' ∉ block.remainder := by
  rw [← (opens_of_find? hfind).source_eq, Block.source, List.mem_append, List.mem_append, not_or,
    not_or] at h
  obtain ⟨⟨hlead, hraw⟩, hrest⟩ := h
  refine ⟨hraw, ?_⟩
  rw [Block.remainder, List.mem_append, not_or]
  exact ⟨hlead, hrest⟩

end Frontmatter
end DocViews
