import DocViews.Frontmatter
import DocViews.Proofs.Text.Lines

/-!
# What a metadata block looks like

There are two ways to find a block, and the blocks that they find have one shape: nothing but blanks
in front, then an opening fence, inner lines and a closing fence (`Block.Opens`).  So a block never
has to take in a fence that follows it (`Block.closed_eq_self`), and its inner text is what stands
between its first and its last line (`Block.Opens.innerLines_eq`).
-/

set_option autoImplicit false

namespace DocViews
namespace Frontmatter

open Text

/-- A block at the top of a source: blanks, and then lines from an opening fence to a closing one. -/
structure Block.Opens (block : Block) (source : Text) : Prop where
  source_eq : block.source = source
  lead_blank : isBlankText block.lead = true
  pieces_eq : ∃ opening inner closing, block.raw.pieces = opening :: (inner ++ [closing]) ∧
    isOpening opening = true ∧ isClosing closing = true

/-! ## Lines without their ends -/

theorem isOpening_dropLineEnd (piece : Text) : isOpening (dropLineEnd piece) = isOpening piece := by
  rw [isOpening, isOpening, trimEnd_dropLineEnd]

theorem isClosing_dropLineEnd (piece : Text) : isClosing (dropLineEnd piece) = isClosing piece := by
  rw [isClosing, isClosing, trimEnd_dropLineEnd]

namespace Block.Opens

variable {block : Block} {source : Text}

theorem lines_eq (h : block.Opens source) :
    ∃ opening inner closing, block.raw.lines = opening :: (inner ++ [closing]) ∧
      isOpening opening = true ∧ isClosing closing = true := by
  obtain ⟨opening, inner, closing, hpieces, hopening, hclosing⟩ := h.pieces_eq
  refine ⟨dropLineEnd opening, inner.map dropLineEnd, dropLineEnd closing, ?_, ?_, ?_⟩
  · rw [lines, hpieces, List.map_cons, List.map_append, List.map_singleton]
  · rw [isOpening_dropLineEnd, hopening]
  · rw [isClosing_dropLineEnd, hclosing]

theorem isClosed (h : block.Opens source) : block.isClosed = true := by
  obtain ⟨opening, inner, closing, hlines, -, hclosing⟩ := h.lines_eq
  rw [Block.isClosed, hlines, List.tail_cons, List.getLast?_concat]
  exact hclosing

/-- A block that begins and ends with a fence has nothing to take in. -/
theorem closed_eq_self (h : block.Opens source) : block.closed = block := by
  rw [Block.closed, if_pos h.isClosed]

end Block.Opens

/-- The lines between two fence lines. -/
theorem innerLines_of_lines_eq {raw opening closing : Text} {inner : List Text}
    (h : raw.lines = opening :: (inner ++ [closing])) (hopening : isOpening opening = true)
    (hclosing : isClosing closing = true) : innerLines raw = inner := by
  rw [innerLines, h]
  simp only [hopening, if_true, List.getLast?_concat, hclosing, List.dropLast_concat]

/-! ## The empty block -/

theorem emptyBlock?_eq_some_iff {source : Text} {block : Block} :
    emptyBlock? source = some block ↔
      ∃ opening closing more, pieces source = opening :: closing :: more ∧
        isOpening opening = true ∧ isClosing closing = true ∧
        block = ⟨[], opening ++ closing, more.flatten⟩ := by
  rw [emptyBlock?]
  constructor
  · intro h
    split at h
    · next opening closing more hpieces =>
      split at h
      · next hfences =>
        rw [Bool.and_eq_true] at hfences
        exact ⟨opening, closing, more, hpieces, hfences.1, hfences.2, (Option.some.inj h).symm⟩
      · exact absurd h (by simp)
    · exact absurd h (by simp)
  · rintro ⟨opening, closing, more, hpieces, hopening, hclosing, rfl⟩
    rw [hpieces]
    simp only [hopening, hclosing, Bool.and_self, if_true]

/-- The first two lines of a document are two lines by themselves. -/
theorem pieces_append_of_two {source opening closing : Text} {more : List Text}
    (h : pieces source = opening :: closing :: more) :
    pieces (opening ++ closing) = [opening, closing] := by
  have hraw : pieces [opening, closing].flatten = [opening, closing] :=
    pieces_flatten_of_append h
  rwa [List.flatten_cons, List.flatten_cons, List.flatten_nil, List.append_nil] at hraw

theorem opens_of_emptyBlock? {source : Text} {block : Block} (h : emptyBlock? source = some block) :
    block.Opens source := by
  obtain ⟨opening, closing, more, hpieces, hopening, hclosing, rfl⟩ := emptyBlock?_eq_some_iff.1 h
  refine ⟨?_, rfl, opening, [], closing, pieces_append_of_two hpieces, hopening, hclosing⟩
  rw [Block.source, List.nil_append, ← flatten_pieces source, hpieces, List.flatten_cons,
    List.flatten_cons, List.append_assoc]

/-! ## The first line that is not blank -/

theorem isBlank_of_isLineEnd {c : Char} (h : isLineEnd c = true) : isBlank c = true := by
  simp only [isLineEnd, Bool.or_eq_true, decide_eq_true_eq] at h
  rcases h with rfl | rfl <;> rfl

theorem isBlank_of_isLineSpace {c : Char} (h : isLineSpace c = true) : isBlank c = true := by
  simp only [isLineSpace, Bool.or_eq_true, decide_eq_true_eq] at h
  rcases h with ((rfl | rfl) | rfl) | rfl <;> rfl

/-- Nothing but blanks is skipped in front of the first line; `start` are the blanks that have been
read of the line. -/
theorem fromFirstLine_append (start rest : Text) (hstart : isBlankText start = true) :
    ∃ lead, start ++ rest = lead ++ fromFirstLine (start ++ rest) rest ∧
      isBlankText lead = true := by
  induction rest generalizing start with
  | nil => exact ⟨start, by rw [fromFirstLine, List.append_nil], hstart⟩
  | cons c more ih =>
    rw [fromFirstLine]
    by_cases hend : isLineEnd c = true
    · obtain ⟨lead, hmore, hlead⟩ := ih [] rfl
      rw [List.nil_append] at hmore
      refine ⟨start ++ c :: lead, ?_, ?_⟩
      · rw [if_pos hend, List.append_assoc, List.cons_append, ← hmore]
      · rw [isBlankText, List.all_append, List.all_cons, isBlank_of_isLineEnd hend, Bool.true_and]
        exact Bool.and_eq_true_iff.2 ⟨hstart, hlead⟩
    · rw [if_neg hend]
      by_cases hspace : isLineSpace c = true
      · have hnext : isBlankText (start ++ [c]) = true := by
          rw [isBlankText, List.all_append, List.all_cons, isBlank_of_isLineSpace hspace]
          exact Bool.and_eq_true_iff.2 ⟨hstart, rfl⟩
        obtain ⟨lead, hmore, hlead⟩ := ih (start ++ [c]) hnext
        rw [List.append_assoc, List.singleton_append] at hmore
        exact ⟨lead, by rw [if_pos hspace]; exact hmore, hlead⟩
      · exact ⟨[], by rw [if_neg hspace, List.nil_append], rfl⟩

/-- A source is the blank lines at its top and what is left from its first line on. -/
theorem take_append_fromFirstLine (source : Text) :
    source.take (source.length - (fromFirstLine source source).length) ++ fromFirstLine source source
        = source ∧
      isBlankText (source.take (source.length - (fromFirstLine source source).length)) = true := by
  obtain ⟨lead, hsource, hlead⟩ := fromFirstLine_append [] source rfl
  rw [List.nil_append] at hsource
  have htake : source.take (source.length - (fromFirstLine source source).length) = lead := by
    have hlength : source.length - (fromFirstLine source source).length = lead.length := by
      have := congrArg List.length hsource
      rw [List.length_append] at this
      omega
    rw [hlength]
    exact (congrArg (List.take lead.length) hsource).trans List.take_left
  rw [htake]
  exact ⟨hsource.symm, hlead⟩

/-! ## Closing fences -/

/-- A closing fence is hyphens or points, and the spaces behind them up to the end of the line. -/
theorem fenceLength?_eq_some_iff {piece : Text} {n : Nat} :
    fenceLength? piece = some n ↔
      ∃ fence spaces rest, (fence = hyphens ∨ fence = points) ∧ (∀ c ∈ spaces, c = ' ') ∧
        (∀ c ∈ rest.head?, isLineEnd c = true) ∧ piece = fence ++ (spaces ++ rest) ∧
        n = (fence ++ spaces).length := by
  have hthree {fence : Text} (h : fence = hyphens ∨ fence = points) : fence.length = 3 := by
    rcases h with rfl | rfl <;> rfl
  rw [fenceLength?]
  constructor
  · intro h
    split at h
    · next hfence =>
      obtain ⟨fence, hkind, rest, rfl⟩ :
          ∃ fence, (fence = hyphens ∨ fence = points) ∧ fence <+: piece := by
        rw [Bool.or_eq_true, List.isPrefixOf_iff_prefix, List.isPrefixOf_iff_prefix] at hfence
        rcases hfence with hfence | hfence
        · exact ⟨hyphens, Or.inl rfl, hfence⟩
        · exact ⟨points, Or.inr rfl, hfence⟩
      have hdrop : (fence ++ rest).drop 3 = rest := hthree hkind ▸ List.drop_left
      have hsplit := List.takeWhile_append_dropWhile (p := fun c => decide (c = ' ')) (l := rest)
      simp only [hdrop, ← List.drop_drop] at h
      generalize hspaces : rest.takeWhile (· = ' ') = spaces at h hsplit
      generalize rest.dropWhile (· = ' ') = more at hsplit
      subst hsplit
      rw [List.drop_left] at h
      have hall : ∀ c ∈ spaces, c = ' ' := by
        intro c hc
        rw [← hspaces] at hc
        simpa using List.mem_takeWhile_imp hc
      have hn (hlength : 3 + spaces.length = n) : n = (fence ++ spaces).length := by
        rw [List.length_append, hthree hkind, hlength]
      cases more with
      | nil => exact ⟨fence, spaces, [], hkind, hall, by simp, rfl, hn (Option.some.inj h)⟩
      | cons c more =>
        simp only at h
        split at h
        · next hc =>
          refine ⟨fence, spaces, c :: more, hkind, hall, ?_, rfl, hn (Option.some.inj h)⟩
          intro d hd
          rwa [← Option.some.inj hd]
        · exact absurd h (by simp)
    · exact absurd h (by simp)
  · rintro ⟨fence, spaces, rest, hkind, hspaces, hrest, rfl, rfl⟩
    have hfence : (hyphens.isPrefixOf (fence ++ (spaces ++ rest)) ||
        points.isPrefixOf (fence ++ (spaces ++ rest))) = true := by
      rw [Bool.or_eq_true, List.isPrefixOf_iff_prefix, List.isPrefixOf_iff_prefix]
      rcases hkind with rfl | rfl
      · exact Or.inl (List.prefix_append _ _)
      · exact Or.inr (List.prefix_append _ _)
    have hdrop : (fence ++ (spaces ++ rest)).drop 3 = spaces ++ rest :=
      hthree hkind ▸ List.drop_left
    have htake : (spaces ++ rest).takeWhile (· = ' ') = spaces := by
      rw [List.takeWhile_append_of_pos (by simpa using hspaces)]
      cases rest with
      | nil => rw [List.takeWhile_nil, List.append_nil]
      | cons c more =>
        have hc : c ≠ ' ' := by
          rintro rfl
          exact absurd (hrest ' ' rfl) (by decide)
        rw [List.takeWhile_cons_of_neg (by simpa using hc), List.append_nil]
    rw [if_pos hfence, List.length_append, hthree hkind]
    simp only [← List.drop_drop, hdrop, htake, List.drop_left]
    cases rest with
    | nil => rfl
    | cons c more =>
      simp only
      rw [if_pos (hrest c rfl)]

/-- The fence that a line begins with: hyphens or points, and the spaces behind them. -/
theorem take_of_fenceLength? {piece : Text} {n : Nat} (h : fenceLength? piece = some n) :
    ∃ fence spaces, (fence = hyphens ∨ fence = points) ∧ (∀ c ∈ spaces, c = ' ') ∧
      piece.take n = fence ++ spaces := by
  obtain ⟨fence, spaces, rest, hkind, hspaces, -, rfl, rfl⟩ := fenceLength?_eq_some_iff.1 h
  exact ⟨fence, spaces, hkind, hspaces, by rw [← List.append_assoc, List.take_left]⟩

theorem newline_notMem_take_of_fenceLength? {piece : Text} {n : Nat}
    (h : fenceLength? piece = some n) : '\n' ∉ piece.take n := by
  obtain ⟨fence, spaces, hfence, hspaces, htake⟩ := take_of_fenceLength? h
  rw [htake, List.mem_append, not_or]
  refine ⟨by rcases hfence with rfl | rfl <;> decide, fun hmem => ?_⟩
  exact absurd (hspaces '\n' hmem) (by decide)

/-- The fence that a line begins with is a line of its own, and a closing one. -/
theorem pieces_take_of_fenceLength? {piece : Text} {n : Nat} (h : fenceLength? piece = some n) :
    pieces (piece.take n) = [piece.take n] ∧ isClosing (piece.take n) = true := by
  have hnewline := newline_notMem_take_of_fenceLength? h
  obtain ⟨fence, spaces, hfence, hspaces, htake⟩ := take_of_fenceLength? h
  rw [htake] at hnewline ⊢
  have hblank : isBlankText spaces = true := by
    rw [isBlankText, List.all_eq_true]
    intro c hc
    rw [hspaces c hc]
    rfl
  have hne : fence ++ spaces ≠ [] := by rcases hfence with rfl | rfl <;> simp [hyphens, points]
  refine ⟨pieces_of_notMem hne hnewline, ?_⟩
  rw [isClosing, trimEnd_append hblank]
  rcases hfence with rfl | rfl <;> decide

/-- Lines are cut in the first one that begins with a closing fence. -/
theorem cutAtFence?_eq_some_iff {lines : List Text} {cut : Text × Text} :
    cutAtFence? lines = some cut ↔
      ∃ inner piece more n, lines = inner ++ piece :: more ∧
        (∀ line ∈ inner, fenceLength? line = none) ∧ fenceLength? piece = some n ∧
        cut = (inner.flatten ++ piece.take n, piece.drop n ++ more.flatten) := by
  constructor
  · intro h
    induction lines generalizing cut with
    | nil => exact absurd h (by simp [cutAtFence?])
    | cons piece more ih =>
      rw [cutAtFence?] at h
      split at h
      · next n hn => exact ⟨[], piece, more, n, rfl, by simp, hn, (Option.some.inj h).symm⟩
      · next hnone =>
        obtain ⟨later, hlater, rfl⟩ := Option.map_eq_some_iff.1 h
        obtain ⟨inner, last, rest, n, rfl, hinner, hn, rfl⟩ := ih hlater
        exact ⟨piece :: inner, last, rest, n, rfl, List.forall_mem_cons.2 ⟨hnone, hinner⟩, hn, by
          rw [List.flatten_cons, List.append_assoc]⟩
  · rintro ⟨inner, piece, more, n, rfl, hinner, hn, rfl⟩
    induction inner with
    | nil => rw [List.nil_append, cutAtFence?, hn]; rfl
    | cons line inner ih =>
      obtain ⟨hline, hrest⟩ := List.forall_mem_cons.1 hinner
      rw [List.cons_append, cutAtFence?, hline]
      simp only [ih hrest, Option.map_some, List.flatten_cons, List.append_assoc]

/-! ## The block with content -/

theorem isOpening_of_isPrefixOf {piece : Text} (hstart : hyphens.isPrefixOf piece = true)
    (hspaces : (piece.drop 3).all (fun c => isFenceSpace c || c = '\n') = true) :
    isOpening piece = true := by
  obtain ⟨rest, rfl⟩ := List.isPrefixOf_iff_prefix.1 hstart
  have hblank : isBlankText rest = true := by
    rw [isBlankText, List.all_eq_true]
    intro c hc
    have hspace := List.all_eq_true.1 hspaces c hc
    simp only [isFenceSpace, Bool.or_eq_true, decide_eq_true_eq] at hspace
    rcases hspace with (((rfl | rfl) | rfl) | rfl) | rfl <;> rfl
  rw [isOpening, trimEnd_append hblank]
  decide

/-- The block with content, by the pieces from the first line on. -/
theorem filledBlock?_eq_some_iff {source : Text} {block : Block} :
    filledBlock? source = some block ↔
      ∃ opening first inner piece more n,
        pieces (fromFirstLine source source) = opening :: first :: (inner ++ piece :: more) ∧
        (hyphens.isPrefixOf opening = true ∧
          (opening.drop 3).all (fun c => isFenceSpace c || c = '\n') = true ∧
          isBlankLine first = false ∧ fenceLength? first = none) ∧
        (∀ line ∈ inner, fenceLength? line = none) ∧ fenceLength? piece = some n ∧
        block = ⟨source.take (source.length - (fromFirstLine source source).length),
          opening ++ first ++ (inner.flatten ++ piece.take n), piece.drop n ++ more.flatten⟩ := by
  rw [filledBlock?]
  constructor
  · intro h
    split at h
    · next opening first more hpieces =>
      split at h
      · next hlines =>
        simp only [Bool.and_eq_true, Bool.not_eq_true', Option.isNone_iff_eq_none] at hlines
        obtain ⟨⟨⟨hhyphens, hspaces⟩, hfirst⟩, hfence⟩ := hlines
        obtain ⟨cut, hcut, rfl⟩ := Option.map_eq_some_iff.1 h
        obtain ⟨inner, piece, rest, n, rfl, hinner, hn, rfl⟩ := cutAtFence?_eq_some_iff.1 hcut
        exact ⟨opening, first, inner, piece, rest, n, hpieces,
          ⟨hhyphens, hspaces, hfirst, hfence⟩, hinner, hn, rfl⟩
      · exact absurd h (by simp)
    · exact absurd h (by simp)
  · rintro ⟨opening, first, inner, piece, more, n, hpieces,
      ⟨hhyphens, hspaces, hfirst, hfence⟩, hinner, hn, rfl⟩
    have hcut := cutAtFence?_eq_some_iff.2 ⟨inner, piece, more, n, rfl, hinner, hn, rfl⟩
    simp only [hpieces, hhyphens, hspaces, hfirst, hfence, Bool.not_false, Bool.and_self,
      Option.isNone_none, if_true, hcut, Option.map_some]

/-- The lines of a block that ends in the line `piece`. -/
theorem pieces_filled {text opening first piece : Text} {inner more : List Text} {n : Nat}
    (hpieces : pieces text = opening :: first :: (inner ++ piece :: more))
    (hn : fenceLength? piece = some n) :
    pieces (opening ++ first ++ (inner.flatten ++ piece.take n))
      = opening :: (first :: inner ++ [piece.take n]) := by
  have hraw : pieces ((opening :: first :: inner).flatten ++ piece.take n)
      = (opening :: first :: inner) ++ pieces (piece.take n) :=
    pieces_flatten_append hpieces _
  rw [(pieces_take_of_fenceLength? hn).1] at hraw
  simpa only [List.flatten_cons, List.append_assoc, List.cons_append] using hraw

theorem opens_of_filledBlock? {source : Text} {block : Block}
    (h : filledBlock? source = some block) : block.Opens source := by
  obtain ⟨hsource, hlead⟩ := take_append_fromFirstLine source
  obtain ⟨opening, first, inner, piece, rest, n, hpieces, ⟨hhyphens, hspaces, -, -⟩, -, hn, rfl⟩ :=
    filledBlock?_eq_some_iff.1 h
  have hstart := flatten_pieces (fromFirstLine source source)
  rw [hpieces] at hstart
  simp only [List.flatten_cons, List.flatten_append] at hstart
  refine ⟨?_, hlead, opening, first :: inner, piece.take n, pieces_filled hpieces hn,
    isOpening_of_isPrefixOf hhyphens hspaces, (pieces_take_of_fenceLength? hn).2⟩
  refine Eq.trans ?_ hsource
  rw [Block.source, ← hstart]
  simp only [List.append_assoc]
  rw [← List.append_assoc (piece.take n), List.take_append_drop]

/-! ## The block of a document -/

/-- The block with content takes in nothing. -/
theorem find?_eq (source : Text) : find? source = (emptyBlock? source <|> filledBlock? source) := by
  rw [find?]
  congr 1
  cases h : filledBlock? source with
  | none => rfl
  | some block => rw [Option.map_some, (opens_of_filledBlock? h).closed_eq_self]

/-- **A block stands at the top of its document**, between an opening and a closing fence. -/
theorem opens_of_find? {source : Text} {block : Block} (h : find? source = some block) :
    block.Opens source := by
  rw [find?_eq] at h
  cases hempty : emptyBlock? source with
  | none => rw [hempty] at h; exact opens_of_filledBlock? h
  | some first =>
    rw [hempty] at h
    obtain rfl : first = block := Option.some.inj h
    exact opens_of_emptyBlock? hempty

end Frontmatter
end DocViews
