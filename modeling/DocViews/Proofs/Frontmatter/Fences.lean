import DocViews.Proofs.Frontmatter.Shape

/-!
# Which fence lines open and close a block

A line is a fence line when hyphens or points are all that is left of it without its blanks at the
end (`isOpening`, `isClosing`).  The empty block goes by this rule.  The block with content has rules
of its own: the opening hyphens may be followed by some ASCII blanks only, the closing ones by spaces
only, and a lone carriage return ends a line.

So between two fence lines with lines between them there is a block exactly when both fence lines are
plain and no line between them is taken for a fence (`find?_closes_iff`).  Other blanks behind a fence
make a difference only where something is between the fences (`find?_tab`).
-/

set_option autoImplicit false

namespace DocViews
namespace Frontmatter

open Text

variable {source opening first closing piece : Text} {inner more : List Text}

/-! ## Fence lines -/

/-- What the block with content takes for a closing fence: hyphens or points, then spaces, then the
end of the text or of a line. -/
def BeginsWithFence (line : Text) : Prop :=
  ∃ fence spaces rest, (fence = hyphens ∨ fence = points) ∧ (∀ c ∈ spaces, c = ' ') ∧
    (∀ c ∈ rest.head?, isLineEnd c = true) ∧ line = fence ++ (spaces ++ rest)

theorem beginsWithFence_iff : BeginsWithFence piece ↔ ∃ n, fenceLength? piece = some n := by
  simp only [fenceLength?_eq_some_iff]
  constructor
  · rintro ⟨fence, spaces, rest, hfence, hspaces, hrest, hpiece⟩
    exact ⟨_, fence, spaces, rest, hfence, hspaces, hrest, hpiece, rfl⟩
  · rintro ⟨n, fence, spaces, rest, hfence, hspaces, hrest, hpiece, -⟩
    exact ⟨fence, spaces, rest, hfence, hspaces, hrest, hpiece⟩

theorem fenceLength?_eq_none_iff : fenceLength? piece = none ↔ ¬ BeginsWithFence piece := by
  rw [beginsWithFence_iff, not_exists, Option.eq_none_iff_forall_ne_some]

instance (line : Text) : Decidable (BeginsWithFence line) :=
  decidable_of_iff ((fenceLength? line).isSome = true)
    (Option.isSome_iff_exists.trans beginsWithFence_iff.symm)

theorem exists_of_isOpening (h : isOpening opening = true) :
    ∃ blanks, opening = hyphens ++ blanks ∧ isBlankText blanks = true := by
  obtain ⟨blanks, hopening, hblanks⟩ := exists_trimEnd opening
  rw [of_decide_eq_true h] at hopening
  exact ⟨blanks, hopening, hblanks⟩

/-- Behind the three characters of a closing fence there are only blanks. -/
theorem isBlankText_drop_of_isClosing (h : isClosing closing = true) :
    isBlankText (closing.drop 3) = true := by
  obtain ⟨blanks, hclosing, hblanks⟩ := exists_trimEnd closing
  have hlength : (trimEnd closing).length = 3 := by
    rw [isClosing, Bool.or_eq_true, decide_eq_true_iff, decide_eq_true_iff] at h
    rcases h with h | h <;> rw [h] <;> rfl
  have hdrop : closing.drop 3 = blanks := by
    rw [hclosing, ← hlength]
    exact List.drop_left
  rwa [hdrop]

theorem three_le_of_fenceLength? {n : Nat} (h : fenceLength? piece = some n) : 3 ≤ n := by
  obtain ⟨fence, spaces, -, hfence, -, -, -, rfl⟩ := fenceLength?_eq_some_iff.1 h
  rw [List.length_append]
  rcases hfence with rfl | rfl <;> exact Nat.le_add_right 3 _

/-- What a block with content leaves of the line of its closing fence is blank. -/
theorem isBlankText_drop_of_fenceLength? (h : isClosing closing = true) {n : Nat}
    (hn : fenceLength? closing = some n) : isBlankText (closing.drop n) = true := by
  have hblank := isBlankText_drop_of_isClosing h
  obtain ⟨k, rfl⟩ := Nat.exists_eq_add_of_le (three_le_of_fenceLength? hn)
  rw [← List.drop_drop, isBlankText, List.all_eq_true]
  exact fun c hc => List.all_eq_true.1 hblank c (List.mem_of_mem_drop hc)

/-! ## Documents with two fence lines -/

/-- A document that begins with an opening fence and has a closing one further down.  `inner` are the
lines up to the first closing fence. -/
structure HasFences (source opening : Text) (inner : List Text) (closing : Text)
    (more : List Text) : Prop where
  pieces_eq : pieces source = opening :: (inner ++ closing :: more)
  opening : isOpening opening = true
  inner : ∀ line ∈ inner, isClosing line = false
  closing : isClosing closing = true

/-- A block from the start of its document to a closing fence.  Blanks at the end of the fence may be
missing. -/
structure Block.ClosesAt (block : Block) (opening : Text) (inner : List Text) (closing : Text) :
    Prop where
  lead_eq : block.lead = []
  pieces_eq : ∃ fence blanks, closing = fence ++ blanks ∧ isBlankText blanks = true ∧
    block.raw.pieces = opening :: (inner ++ [fence])

/-- What two fence lines and the lines between them are like if they make a block with content. -/
structure PlainFences (opening : Text) (inner : List Text) (closing : Text) : Prop where
  opening : ∀ c ∈ opening.drop 3, isFenceSpace c = true ∨ c = '\n'
  closing : BeginsWithFence closing
  /-- The line behind the opening fence is not blank, not even up to a lone carriage return. -/
  first : ∀ line ∈ inner.head?, isBlankLine line = false
  /-- No line between the fences is a fence up to a lone carriage return. -/
  inner : ∀ line ∈ inner, ¬ BeginsWithFence line

namespace HasFences

/-- There is one first closing fence. -/
theorem unique {opening' closing' : Text} {inner' more' : List Text}
    (h : HasFences source opening inner closing more)
    (h' : HasFences source opening' inner' closing' more') : inner = inner' ∧ closing = closing' := by
  -- the lines up to a first closing fence are those that are taken while there is none
  have htaken : ∀ {lines behind : List Text} {fence : Text},
      (∀ line ∈ lines, isClosing line = false) → isClosing fence = true →
      (lines ++ fence :: behind).takeWhile (fun line => !isClosing line) = lines := by
    intro lines behind fence hlines hfence
    rw [List.takeWhile_append_of_pos (by simpa using hlines),
      List.takeWhile_cons_of_neg (by simp [hfence]), List.append_nil]
  have hrest := (List.cons.inj (h.pieces_eq.symm.trans h'.pieces_eq)).2
  have hinner : inner = inner' := by
    rw [← htaken h.inner h.closing, hrest, htaken h'.inner h'.closing]
  subst hinner
  exact ⟨rfl, (List.cons.inj (List.append_cancel_left hrest)).1⟩

/-- The first line of a fenced document is its first line that is not blank. -/
theorem fromFirstLine_eq (h : HasFences source opening inner closing more) :
    fromFirstLine source source = source := by
  obtain ⟨blanks, hopening, -⟩ := exists_of_isOpening h.opening
  obtain ⟨rest, hsource⟩ : ∃ rest, source = '-' :: rest := by
    refine ⟨'-' :: '-' :: blanks ++ (inner ++ closing :: more).flatten, ?_⟩
    rw [← flatten_pieces source, h.pieces_eq, hopening]
    rfl
  rw [hsource, fromFirstLine, if_neg (by decide), if_neg (by decide)]

/-- If nothing is between the fences, there is an empty block. -/
theorem find?_empty (h : HasFences source opening [] closing more) :
    find? source = some ⟨[], opening ++ closing, more.flatten⟩ := by
  rw [find?_eq, emptyBlock?_eq_some_iff.2
    ⟨opening, closing, more, h.pieces_eq, h.opening, h.closing, rfl⟩]
  rfl

/-- If something is between them, only a block with content may be there. -/
theorem find?_filled (h : HasFences source opening (first :: inner) closing more) :
    find? source = filledBlock? source := by
  rw [find?_eq, emptyBlock?, h.pieces_eq]
  simp only [List.cons_append, h.inner first List.mem_cons_self, Bool.and_false, Bool.false_eq_true,
    if_false]
  rfl

theorem closesAt_empty (h : HasFences source opening [] closing more) :
    Block.ClosesAt ⟨[], opening ++ closing, more.flatten⟩ opening [] closing :=
  ⟨rfl, closing, [], (List.append_nil _).symm, rfl, pieces_append_of_two h.pieces_eq⟩

/-- Plain fences make a block. -/
theorem exists_closesAt (h : HasFences source opening (first :: inner) closing more)
    (hplain : PlainFences opening (first :: inner) closing) :
    ∃ block, find? source = some block ∧ block.ClosesAt opening (first :: inner) closing := by
  obtain ⟨n, hn⟩ := beginsWithFence_iff.1 hplain.closing
  obtain ⟨blanks, hopening, -⟩ := exists_of_isOpening h.opening
  obtain ⟨hfirst, hinner⟩ := List.forall_mem_cons.1 hplain.inner
  have hspaces : (opening.drop 3).all (fun c => isFenceSpace c || c = '\n') = true := by
    rw [List.all_eq_true]
    intro c hc
    rw [Bool.or_eq_true, decide_eq_true_iff]
    exact hplain.opening c hc
  have hhyphens : hyphens.isPrefixOf opening = true := by
    rw [hopening, List.isPrefixOf_iff_prefix]
    exact List.prefix_append _ _
  have hpieces : pieces source = opening :: first :: (inner ++ closing :: more) := h.pieces_eq
  have hfilled : filledBlock? source = some ⟨_, _, _⟩ :=
    filledBlock?_eq_some_iff.2 ⟨opening, first, inner, closing, more, n,
      h.fromFirstLine_eq.symm ▸ hpieces,
      ⟨hhyphens, hspaces, hplain.first first rfl, fenceLength?_eq_none_iff.2 hfirst⟩,
      fun line hline => fenceLength?_eq_none_iff.2 (hinner line hline), hn, rfl⟩
  refine ⟨_, h.find?_filled.trans hfilled, ?_, closing.take n, closing.drop n,
    (List.take_append_drop n closing).symm, isBlankText_drop_of_fenceLength? h.closing hn,
    pieces_filled hpieces hn⟩
  simp only [h.fromFirstLine_eq, Nat.sub_self, List.take_zero]

/-- **A block that closes at the first closing fence has plain fences.**  Its lines tell which line
was taken for its closing fence. -/
theorem plainFences (h : HasFences source opening (first :: inner) closing more) {block : Block}
    (hfind : find? source = some block)
    (hcloses : block.ClosesAt opening (first :: inner) closing) :
    PlainFences opening (first :: inner) closing := by
  rw [h.find?_filled] at hfind
  obtain ⟨opening', first', inner', piece, more', n, hpieces, ⟨-, hspaces, hblank, hfirst⟩, hinner,
    hn, rfl⟩ := filledBlock?_eq_some_iff.1 hfind
  obtain ⟨-, fence, blanks, -, -, hraw⟩ := hcloses
  rw [Block.raw, pieces_filled hpieces hn] at hraw
  rw [h.fromFirstLine_eq, h.pieces_eq] at hpieces
  obtain ⟨rfl, hlines⟩ := List.cons.inj hpieces
  obtain ⟨rfl, hbehind⟩ := List.cons.inj hlines
  obtain ⟨rfl, -⟩ : inner' = inner ∧ [piece.take n] = [fence] :=
    List.append_inj' (List.cons.inj (List.cons.inj hraw).2).2 rfl
  obtain ⟨rfl, -⟩ := List.cons.inj (List.append_cancel_left hbehind)
  refine ⟨fun c hc => ?_, beginsWithFence_iff.2 ⟨n, hn⟩, ?_, ?_⟩
  · have hspace := List.all_eq_true.1 hspaces c hc
    rwa [Bool.or_eq_true, decide_eq_true_iff] at hspace
  · intro line hline
    rwa [← Option.some.inj hline]
  · exact List.forall_mem_cons.2 ⟨fenceLength?_eq_none_iff.1 hfirst,
      fun line hline => fenceLength?_eq_none_iff.1 (hinner line hline)⟩

end HasFences

/-! ## The lines between the fences -/

namespace HasFences

variable {block : Block}

theorem innerText_eq (h : HasFences source opening inner closing more)
    (hcloses : block.ClosesAt opening inner closing) :
    innerText block.raw = List.intercalate ['\n'] (inner.map dropLineEnd) := by
  obtain ⟨-, fence, blanks, rfl, hblanks, hraw⟩ := hcloses
  have hlines : block.raw.lines
      = dropLineEnd opening :: (inner.map dropLineEnd ++ [dropLineEnd fence]) := by
    rw [lines, hraw, List.map_cons, List.map_append, List.map_singleton]
  have hfence : isClosing (dropLineEnd fence) = true := by
    rw [isClosing_dropLineEnd, isClosing, ← trimEnd_append hblanks]
    exact h.closing
  rw [innerText, innerLines_of_lines_eq hlines (by rw [isOpening_dropLineEnd, h.opening]) hfence]

/-- No line between the fences is read as a fence again. -/
theorem isClosing_of_mem_lines (h : HasFences source opening inner closing more) {line : Text}
    (hline : line ∈ lines (List.intercalate ['\n'] (inner.map dropLineEnd))) :
    isClosing line = false := by
  have hnewline : ∀ text ∈ inner.map dropLineEnd, '\n' ∉ text := by
    intro text htext
    obtain ⟨piece, hpiece, rfl⟩ := List.mem_map.1 htext
    have hmem : piece ∈ pieces source := by
      rw [h.pieces_eq]
      exact List.mem_cons_of_mem _ (List.mem_append_left _ hpiece)
    exact newline_notMem_of_mem_lines (List.mem_map_of_mem hmem)
  obtain ⟨text, htext, heq⟩ := exists_of_mem_lines_intercalate hnewline hline
  obtain ⟨piece, hpiece, rfl⟩ := List.mem_map.1 htext
  rw [isClosing, heq, ← isClosing, isClosing_dropLineEnd, h.inner piece hpiece]

end HasFences

/-- **Two fence lines make a block exactly when they are plain or next to each other.**  The first
line of a document is an opening fence, and the first closing fence behind it is what its block should
close at: then no line between them is a fence, and nothing behind them is read as metadata.  This is
so if nothing is between them, and otherwise if they are plain and no line between them is taken for
a fence. -/
theorem find?_closes_iff {source opening : Text} {rest : List Text}
    (hpieces : pieces source = opening :: rest) (hopening : isOpening opening = true)
    (hclosing : ∃ line ∈ rest, isClosing line = true) :
    ∃ inner closing more, HasFences source opening inner closing more ∧
      ((∃ block, find? source = some block ∧ block.ClosesAt opening inner closing ∧
          innerText block.raw = List.intercalate ['\n'] (inner.map dropLineEnd) ∧
          ∀ line ∈ lines (innerText block.raw), isClosing line = false)
        ↔ inner = [] ∨ PlainFences opening inner closing) := by
  obtain ⟨closing, hfound⟩ := Option.isSome_iff_exists.1 (List.find?_isSome.2 hclosing)
  obtain ⟨hfence, inner, more, rfl, hinner⟩ := List.find?_eq_some_iff_append.1 hfound
  have h : HasFences source opening inner closing more :=
    ⟨hpieces, hopening, fun line hline => by simpa using hinner line hline, hfence⟩
  refine ⟨inner, closing, more, h, ?_⟩
  have hcut : (∃ block, find? source = some block ∧ block.ClosesAt opening inner closing)
      ↔ inner = [] ∨ PlainFences opening inner closing := by
    cases inner with
    | nil => exact iff_of_true ⟨_, h.find?_empty, h.closesAt_empty⟩ (Or.inl rfl)
    | cons first inner =>
      constructor
      · rintro ⟨block, hfind, hcloses⟩
        exact Or.inr (h.plainFences hfind hcloses)
      · rintro (hnil | hplain)
        · exact absurd hnil (List.cons_ne_nil _ _)
        · exact h.exists_closesAt hplain
  rw [← hcut]
  constructor
  · rintro ⟨block, hfind, hcloses, -, -⟩
    exact ⟨block, hfind, hcloses⟩
  · rintro ⟨block, hfind, hcloses⟩
    have hinnerText := h.innerText_eq hcloses
    refine ⟨block, hfind, hcloses, hinnerText, fun line hline => ?_⟩
    rw [hinnerText] at hline
    exact h.isClosing_of_mem_lines hline

/-- A tab behind the opening fence, an empty line, and spaces behind points in front of a carriage
return; there is another fence further down. -/
theorem find?_closes_iff_points :
    (pieces "---\t\r\ntitle: A\r\n\n...  \r\nB\n---".toList
        = "---\t\r\n".toList ::
          ["title: A\r\n".toList, ['\n'], "...  \r\n".toList, "B\n".toList, "---".toList] ∧
      isOpening "---\t\r\n".toList = true ∧
      ∃ line ∈ ["title: A\r\n".toList, ['\n'], "...  \r\n".toList, "B\n".toList, "---".toList],
        isClosing line = true) ∧
    ∃ block, find? "---\t\r\ntitle: A\r\n\n...  \r\nB\n---".toList = some block ∧
      block.ClosesAt "---\t\r\n".toList ["title: A\r\n".toList, ['\n']] "...  \r\n".toList ∧
      innerText block.raw = "title: A\n".toList := by
  have hpieces : pieces "---\t\r\ntitle: A\r\n\n...  \r\nB\n---".toList
      = "---\t\r\n".toList ::
        ["title: A\r\n".toList, ['\n'], "...  \r\n".toList, "B\n".toList, "---".toList] := by
    decide +kernel
  have hopening : isOpening "---\t\r\n".toList = true := by decide +kernel
  have hclosing : ∃ line ∈ ["title: A\r\n".toList, ['\n'], "...  \r\n".toList, "B\n".toList,
      "---".toList], isClosing line = true := by decide +kernel
  refine ⟨⟨hpieces, hopening, hclosing⟩, ?_⟩
  have hfences : HasFences "---\t\r\ntitle: A\r\n\n...  \r\nB\n---".toList "---\t\r\n".toList
      ["title: A\r\n".toList, ['\n']] "...  \r\n".toList ["B\n".toList, "---".toList] :=
    ⟨hpieces, hopening, by decide +kernel, by decide +kernel⟩
  have hplain : PlainFences "---\t\r\n".toList ["title: A\r\n".toList, ['\n']]
      "...  \r\n".toList :=
    ⟨by simp [isFenceSpace], by decide +kernel, by decide +kernel, by decide +kernel⟩
  obtain ⟨inner, closing, more, h, hiff⟩ := find?_closes_iff hpieces hopening hclosing
  obtain ⟨rfl, rfl⟩ := hfences.unique h
  obtain ⟨block, hfind, hcloses, hinner, -⟩ := hiff.2 (Or.inr hplain)
  exact ⟨block, hfind, hcloses, hinner.trans (by decide +kernel)⟩

/-- With a tab or another blank behind a fence it depends on what is between the fences whether there
is a block; and if there is another fence further down, what follows the first one is metadata. -/
theorem find?_tab :
    (pieces "---\ntitle: A\n---\t".toList
        = ["---\n".toList, "title: A\n".toList, "---\t".toList] ∧
      isOpening "---\n".toList = true ∧ isBlankText "title: A\n".toList = false ∧
      isClosing "---\t".toList = true ∧ find? "---\ntitle: A\n---\t".toList = none) ∧
    find? "---\n---\t".toList = some ⟨[], "---\n---\t".toList, []⟩ ∧
    find? "---\u00a0\ntitle: A\n---\n".toList = none ∧
    find? "---\u00a0\n---\n".toList = some ⟨[], "---\u00a0\n---\n".toList, []⟩ ∧
    (find? "---\ntitle: A\n---\t\norder: 5\n---\n".toList).map (innerText ·.raw)
      = some "title: A\n---\t\norder: 5".toList := by
  decide +kernel

end Frontmatter
end DocViews
