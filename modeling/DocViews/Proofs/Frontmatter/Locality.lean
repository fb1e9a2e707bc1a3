import DocViews.Content
import DocViews.Proofs.Frontmatter.Shape

/-!
# The block is decided at the top

Only the top of a document decides what its metadata is (`decided_at_top`).  A block that is found
is found again in whatever text goes on behind its closing fence, with the same lines between its
fences; so the body may hold fences of its own.  And a document whose first line is no fence has no
block, so no fence further down opens one.

Both ways to find a block read the lines up to its closing fence and nothing behind them.  The empty
block depends on the first two pieces (`emptyBlock?_isSome_congr`).  The block with content depends
on where its first line is, which is settled by the first hyphen (`fromFirstLine_hyphen`), and on
the lines up to the first closing fence (`filledBlock?_of_top`).
-/

set_option autoImplicit false

namespace DocViews
namespace Frontmatter

open Text

/-! ## The empty block -/

theorem emptyBlock?_isSome {source opening closing : Text} {more : List Text}
    (h : pieces source = opening :: closing :: more) :
    (emptyBlock? source).isSome = (isOpening opening && isClosing closing) := by
  rw [emptyBlock?, h]
  simp only
  cases isOpening opening && isClosing closing <;> rfl

/-- Whether there is an empty block depends on the first two pieces. -/
theorem emptyBlock?_isSome_congr {source other first : Text} {front back more : List Text}
    (hfront : front ≠ []) (hsource : pieces source = front ++ first :: back)
    (hother : pieces other = front ++ first :: more) :
    (emptyBlock? other).isSome = (emptyBlock? source).isSome := by
  match front with
  | [] => exact absurd rfl hfront
  | [opening] => exact (emptyBlock?_isSome hother).trans (emptyBlock?_isSome hsource).symm
  | opening :: closing :: rest =>
    exact (emptyBlock?_isSome hother).trans (emptyBlock?_isSome hsource).symm

/-- The empty block stands at the very start, and there is nothing between its fences. -/
theorem innerLines_of_emptyBlock? {source : Text} {block : Block}
    (h : emptyBlock? source = some block) : block.lead = [] ∧ innerLines block.raw = [] := by
  obtain ⟨opening, closing, more, hpieces, hopening, hclosing, rfl⟩ := emptyBlock?_eq_some_iff.1 h
  have hlines : lines (opening ++ closing)
      = dropLineEnd opening :: ([] ++ [dropLineEnd closing]) := by
    rw [lines, pieces_append_of_two hpieces]
    rfl
  refine ⟨rfl, innerLines_of_lines_eq hlines ?_ ?_⟩
  · rw [isOpening_dropLineEnd, hopening]
  · rw [isClosing_dropLineEnd, hclosing]

/-- An empty block is found again from its fences; its closing fence may have had no line feed. -/
theorem emptyBlock?_of_top {source : Text} {block : Block} (h : emptyBlock? source = some block)
    (after : Text) : (emptyBlock? (block.lead ++ block.raw ++ '\n' :: after)).isSome = true := by
  obtain ⟨opening, closing, more, hpieces, hopening, hclosing, rfl⟩ := emptyBlock?_eq_some_iff.1 h
  obtain ⟨line, rest, hline, rfl, -, hrest⟩ := exists_of_pieces_eq_cons_cons hpieces
  obtain ⟨last, hlast, hcases⟩ := cases_of_mem_pieces (hrest ▸ List.mem_cons_self)
  have hagain : ∃ tail, pieces (closing ++ '\n' :: after) = (last ++ ['\n']) :: tail := by
    rcases hcases with rfl | rfl
    · exact ⟨_, pieces_append_newline hlast after⟩
    · exact ⟨_, pieces_piece_append hlast _⟩
  have hsame : isClosing (last ++ ['\n']) = isClosing closing := by
    rcases hcases with rfl | rfl
    · rw [isClosing, isClosing, trimEnd_append (by decide)]
    · rfl
  obtain ⟨tail, htail⟩ := hagain
  have hall : pieces ([] ++ (line ++ ['\n'] ++ closing) ++ '\n' :: after)
      = (line ++ ['\n']) :: (last ++ ['\n']) :: tail := by
    rw [List.nil_append, List.append_assoc, pieces_piece_append hline, htail]
  rw [emptyBlock?_isSome hall, hsame, hopening, hclosing, Bool.and_self]

/-! ## The block with content -/

/-- **The first line is settled by its hyphen.**  If the first line that is not blank begins with a
hyphen, it is found behind the same blank lines whatever stands behind the hyphen.  The induction is
on what is still to be read; `spaces` are the blanks that have been read of the line. -/
theorem fromFirstLine_hyphen {spaces text more : Text} (hspaces : spaces.all isLineSpace = true)
    (h : fromFirstLine (spaces ++ text) text = '-' :: more) :
    ∃ lead, spaces ++ text = lead ++ '-' :: more ∧ ∀ after, ∃ other,
      lead ++ '-' :: after = spaces ++ other ∧
        fromFirstLine (spaces ++ other) other = '-' :: after := by
  induction text generalizing spaces with
  | nil => exact absurd h (by simp [fromFirstLine])
  | cons c rest ih =>
    rw [fromFirstLine] at h
    by_cases hend : isLineEnd c = true
    · rw [if_pos hend] at h
      obtain ⟨lead, hrest, hagain⟩ := ih (show ([] : Text).all isLineSpace = true from rfl) h
      refine ⟨spaces ++ c :: lead, ?_, fun after => ?_⟩
      · rw [List.append_assoc, List.cons_append, ← hrest, List.nil_append]
      · obtain ⟨other, hother, hfound⟩ := hagain after
        refine ⟨c :: other, ?_, ?_⟩
        · rw [List.append_assoc, List.cons_append, hother, List.nil_append]
        · rw [fromFirstLine, if_pos hend]
          exact hfound
    · rw [if_neg hend] at h
      by_cases hspace : isLineSpace c = true
      · rw [if_pos hspace] at h
        have hnext : (spaces ++ [c]).all isLineSpace = true := by
          rw [List.all_append, hspaces, List.all_cons, hspace]
          rfl
        obtain ⟨lead, hrest, hagain⟩ := ih hnext (by rwa [List.append_assoc])
        refine ⟨lead, by rwa [List.append_assoc] at hrest, fun after => ?_⟩
        obtain ⟨other, hother, hfound⟩ := hagain after
        rw [List.append_assoc, List.singleton_append] at hother hfound
        refine ⟨c :: other, hother, ?_⟩
        rw [fromFirstLine, if_neg hend, if_pos hspace]
        exact hfound
      · rw [if_neg hspace] at h
        -- the line begins with the hyphen, so no blanks have been read of it
        obtain rfl : spaces = [] := by
          cases spaces with
          | nil => rfl
          | cons d spaces =>
            rw [(List.cons.inj h).1, List.all_cons] at hspaces
            exact absurd hspaces (by simp [isLineSpace])
        refine ⟨[], h, fun after => ⟨'-' :: after, rfl, ?_⟩⟩
        rw [fromFirstLine, if_neg (by decide), if_neg (by decide), List.nil_append]

theorem fromFirstLine_of_hyphen {source more : Text}
    (h : fromFirstLine source source = '-' :: more) :
    ∃ lead, source = lead ++ '-' :: more ∧
      ∀ after, fromFirstLine (lead ++ '-' :: after) (lead ++ '-' :: after) = '-' :: after := by
  obtain ⟨lead, hsource, hagain⟩ :=
    fromFirstLine_hyphen (show ([] : Text).all isLineSpace = true from rfl) h
  refine ⟨lead, hsource, fun after => ?_⟩
  obtain ⟨other, hother, hfound⟩ := hagain after
  rw [hother]
  exact hfound

/-- A closing fence is one whatever its line ends with. -/
theorem fenceLength?_append_newline {piece : Text} {n : Nat} (h : fenceLength? piece = some n) :
    fenceLength? (piece.take n ++ ['\n']) = some n ∧ (piece.take n).length = n := by
  obtain ⟨fence, spaces, rest, hfence, hspaces, -, rfl, rfl⟩ := fenceLength?_eq_some_iff.1 h
  rw [← List.append_assoc, List.take_left]
  refine ⟨fenceLength?_eq_some_iff.2 ⟨fence, spaces, ['\n'], hfence, hspaces, ?_, ?_, rfl⟩, rfl⟩
  · intro c hc
    rw [← Option.some.inj hc]
    rfl
  · rw [List.append_assoc]

/-- **A block with content is found again** from its lines, up to the end of its closing fence. -/
theorem filledBlock?_of_top {source : Text} {block : Block} (h : filledBlock? source = some block)
    (after : Text) :
    filledBlock? (block.lead ++ block.raw ++ '\n' :: after)
      = some ⟨block.lead, block.raw, '\n' :: after⟩ := by
  obtain ⟨opening, first, inner, piece, more, n, hpieces, htests, hinner, hn, rfl⟩ :=
    filledBlock?_eq_some_iff.1 h
  obtain ⟨hfence, hlength⟩ := fenceLength?_append_newline hn
  have hnewline := newline_notMem_take_of_fenceLength? hn
  -- the first line begins with a hyphen, so it is found behind the same lead
  obtain ⟨behind, rfl⟩ := List.isPrefixOf_iff_prefix.1 htests.1
  have hstart : fromFirstLine source source
      = '-' :: ('-' :: '-' :: behind ++ (first ++ (inner ++ piece :: more).flatten)) := by
    rw [← flatten_pieces (fromFirstLine source source), hpieces]
    rfl
  obtain ⟨lead, hsource, hagain⟩ := fromFirstLine_of_hyphen hstart
  have hlead : source.take (source.length - (fromFirstLine source source).length) = lead := by
    rw [hstart, hsource, List.length_append, Nat.add_sub_cancel, List.take_left]
  rw [hlead]
  generalize hraw : hyphens ++ behind ++ first ++ (inner.flatten ++ piece.take n) = raw
  have hfound : fromFirstLine (lead ++ raw ++ '\n' :: after) (lead ++ raw ++ '\n' :: after)
      = raw ++ '\n' :: after := by
    rw [← hraw, List.append_assoc]
    exact hagain _
  have hlines : pieces (raw ++ '\n' :: after)
      = (hyphens ++ behind) :: first :: (inner ++ (piece.take n ++ ['\n']) :: pieces after) := by
    have hfront : pieces (((hyphens ++ behind) :: first :: inner).flatten
          ++ (piece.take n ++ '\n' :: after))
        = ((hyphens ++ behind) :: first :: inner) ++ pieces (piece.take n ++ '\n' :: after) :=
      pieces_flatten_append hpieces _
    rw [pieces_append_newline hnewline] at hfront
    rw [← hraw]
    simpa only [List.flatten_cons, List.append_assoc, List.cons_append] using hfront
  refine filledBlock?_eq_some_iff.2 ⟨hyphens ++ behind, first, inner, piece.take n ++ ['\n'],
    pieces after, n, hfound ▸ hlines, htests, hinner, hfence, ?_⟩
  have htake : (piece.take n ++ ['\n']).take n = piece.take n := by
    rw [List.take_append_of_le_length (Nat.le_of_eq hlength.symm), List.take_take, Nat.min_self]
  have hdrop : (piece.take n ++ ['\n']).drop n = ['\n'] := by
    rw [List.drop_append_of_le_length (Nat.le_of_eq hlength.symm),
      List.drop_eq_nil_of_le (Nat.le_of_eq hlength), List.nil_append]
  rw [hfound, htake, hdrop, hraw, flatten_pieces, List.append_assoc, List.length_append,
    Nat.add_sub_cancel, List.take_left, List.singleton_append]

/-- The first two pieces of a block with content are there whatever stands behind the block. -/
theorem pieces_of_filledBlock? {source : Text} {block : Block}
    (h : filledBlock? source = some block) :
    ∃ opening first, opening ≠ [] ∧
      ∀ after, ∃ more, pieces (block.raw ++ after) = opening :: first :: more := by
  obtain ⟨opening, first, inner, piece, rest, n, hpieces, htests, -, -, rfl⟩ :=
    filledBlock?_eq_some_iff.1 h
  refine ⟨opening, first, ?_, fun after => ?_⟩
  · rintro rfl
    exact absurd htests.1 (by decide)
  · obtain ⟨next, back, hnext⟩ : ∃ next back, inner ++ piece :: rest = next :: back := by
      cases inner with
      | nil => exact ⟨piece, rest, rfl⟩
      | cons next inner => exact ⟨next, inner ++ piece :: rest, rfl⟩
    rw [hnext] at hpieces
    have hfront : pieces ([opening, first].flatten ++ (inner.flatten ++ piece.take n ++ after))
        = [opening, first] ++ pieces (inner.flatten ++ piece.take n ++ after) :=
      pieces_flatten_append hpieces _
    refine ⟨pieces (inner.flatten ++ piece.take n ++ after), ?_⟩
    simpa only [List.flatten_cons, List.flatten_nil, List.append_nil, List.append_assoc,
      List.cons_append, List.nil_append] using hfront

/-- Behind a block with content nothing can make an empty block of the first two pieces. -/
theorem emptyBlock?_of_filledBlock? {source : Text} {block : Block}
    (hempty : emptyBlock? source = none) (h : filledBlock? source = some block) (after : Text) :
    emptyBlock? (block.lead ++ block.raw ++ after) = none := by
  obtain ⟨opening, first, hne, hpieces⟩ := pieces_of_filledBlock? h
  obtain ⟨back, hback⟩ := hpieces block.rest
  obtain ⟨more, hmore⟩ := hpieces after
  have hfront : pieces (block.lead ++ opening) ≠ [] := by
    intro hnil
    have hflat := flatten_pieces (block.lead ++ opening)
    rw [hnil, List.flatten_nil] at hflat
    exact hne (List.append_eq_nil_iff.1 hflat.symm).2
  have hsource := pieces_append_of_eq_cons_cons hback block.lead
  rw [← List.append_assoc, ← Block.source, (opens_of_filledBlock? h).source_eq] at hsource
  have hother := pieces_append_of_eq_cons_cons hmore block.lead
  rw [← List.append_assoc] at hother
  have hsame := emptyBlock?_isSome_congr hfront hsource hother
  rw [hempty, Option.isSome_none] at hsame
  exact Option.not_isSome_iff_eq_none.1 (by rw [hsame]; decide)

/-! ## The block of a document -/

/-- **A block is found again from its top**, whatever stands behind it. -/
theorem find?_of_top {source : Text} {block : Block} (h : find? source = some block)
    (after : Text) :
    ∃ again, find? (block.lead ++ block.raw ++ '\n' :: after) = some again ∧
      again.lead = block.lead ∧ innerText again.raw = innerText block.raw := by
  rw [find?_eq] at h
  rw [find?_eq]
  cases hempty : emptyBlock? source with
  | some found =>
    rw [hempty] at h
    obtain rfl : found = block := Option.some.inj h
    obtain ⟨again, hagain⟩ := Option.isSome_iff_exists.1 (emptyBlock?_of_top hempty after)
    obtain ⟨hlead, hinner⟩ := innerLines_of_emptyBlock? hempty
    obtain ⟨hlead', hinner'⟩ := innerLines_of_emptyBlock? hagain
    refine ⟨again, by rw [hagain]; rfl, hlead'.trans hlead.symm, ?_⟩
    rw [innerText, innerText, hinner, hinner']
  | none =>
    rw [hempty] at h
    have hfilled : filledBlock? source = some block := h
    rw [emptyBlock?_of_filledBlock? hempty hfilled, filledBlock?_of_top hfilled]
    exact ⟨_, rfl, rfl, rfl⟩

/-! ## The first line -/

/-- Blank lines in front of a line do not hide it.  The induction is on the lines of `lead`. -/
theorem exists_firstLine {lead line : Text} (hlead : isBlankText lead = true) (hline : '\n' ∉ line)
    (hne : isBlankText line = false) (rest : Text) :
    ∃ front, isBlankText front = true ∧
      (lines (lead ++ (line ++ '\n' :: rest))).find? (fun l => !isBlankText l)
        = some (dropLineEnd (front ++ (line ++ ['\n']))) := by
  induction lead using induction_on_lines with
  | last front hfront =>
    have hnewline : '\n' ∉ front ++ line := by
      rw [List.mem_append, not_or]
      exact ⟨hfront, hline⟩
    have hshown : isBlankText (front ++ (line ++ ['\n'])) = false := by
      have hall : line.all isBlank = false := hne
      rw [isBlankText, List.all_append, List.all_append, hall, Bool.false_and, Bool.and_false]
    refine ⟨front, hlead, ?_⟩
    rw [← List.append_assoc, lines_append_newline hnewline, List.append_assoc,
      List.find?_cons_of_pos (by rw [isBlankText_dropLineEnd, hshown]; rfl)]
  | more first lead hfirst ih =>
    rw [isBlankText, List.all_append, Bool.and_eq_true] at hlead
    have hskip : isBlankText (first ++ ['\n']) = true := by
      rw [isBlankText, List.all_append, hlead.1]
      rfl
    have hmore : isBlankText lead = true := by
      have hall := hlead.2
      rw [List.all_cons, Bool.and_eq_true] at hall
      exact hall.2
    obtain ⟨front, hfront, hfind⟩ := ih hmore
    refine ⟨front, hfront, ?_⟩
    rw [List.append_assoc, List.cons_append, lines_append_newline hfirst,
      List.find?_cons_of_neg (by rw [isBlankText_dropLineEnd, hskip]; decide)]
    exact hfind

/-- A document with a block has its opening fence for its first line. -/
theorem Block.Opens.firstLine {source : Text} {block : Block} (h : block.Opens source) :
    (source.lines.find? (fun l => !isBlankText l)).map trim = some hyphens := by
  obtain ⟨opening, inner, closing, hpieces, hopening, -⟩ := h.pieces_eq
  obtain ⟨next, back, hnext⟩ : ∃ next back, inner ++ [closing] = next :: back :=
    List.exists_cons_of_ne_nil (by simp)
  rw [hnext] at hpieces
  obtain ⟨line, rest, hline, rfl, hraw, -⟩ := exists_of_pieces_eq_cons_cons hpieces
  have htrim : trimEnd (line ++ ['\n']) = hyphens := by simpa [isOpening] using hopening
  have hne : isBlankText line = false := by
    by_contra hblank
    rw [Bool.not_eq_false] at hblank
    rw [trimEnd_append (by decide), trimEnd_eq_nil_iff.2 hblank] at htrim
    exact absurd htrim (by decide)
  obtain ⟨front, hfront, hfind⟩ := exists_firstLine h.lead_blank hline hne (rest ++ block.rest)
  have hsource : source = block.lead ++ (line ++ '\n' :: (rest ++ block.rest)) := by
    rw [← h.source_eq, Block.source, hraw]
    simp only [List.append_assoc, List.cons_append]
  rw [hsource, hfind, Option.map_some, trim_dropLineEnd, trim, trimStart_append hfront, ← trim,
    ← trimStart_trimEnd, htrim]
  rfl

/-! ## Metadata -/

/-- What is read as metadata is the text between the fences of the block. -/
theorem metadata_ofSource (source : Text) :
    (Content.ofSource source).map Content.metadata
      = match find? source with
        | none => .ok {}
        | some block => Metadata.ofText (innerText block.raw) := by
  rw [Content.ofSource]
  cases find? source with
  | none => rfl
  | some block =>
    simp only
    cases Metadata.ofText (innerText block.raw) <;> rfl

/-- **The top of a document decides its metadata.**  A block that is found starts at the same place
and has the same inner text whatever follows its closing fence, so the metadata are the same, or the
same is wrong with them.  And a document whose first line is no opening fence has no block. -/
theorem decided_at_top (source : Text) :
    (∀ block, find? source = some block →
      ∃ top rest, splitAtByte? block.span.stop source = some (top, rest) ∧
        ∀ after, ∃ again, find? (top ++ '\n' :: after) = some again ∧
          again.span.start = block.span.start ∧ innerText again.raw = innerText block.raw ∧
          (Content.ofSource (top ++ '\n' :: after)).map Content.metadata
            = (Content.ofSource source).map Content.metadata) ∧
      ((source.lines.find? (fun line => !isBlankText line)).map trim ≠ some hyphens →
        find? source = none) := by
  constructor
  · intro block h
    have hopens := opens_of_find? h
    refine ⟨block.lead ++ block.raw, block.rest, ?_, fun after => ?_⟩
    · rw [← hopens.source_eq, Block.source, Block.span, ← byteSize_append]
      exact splitAtByte?_byteSize _ _
    · obtain ⟨again, hagain, hlead, hinner⟩ := find?_of_top h after
      refine ⟨again, hagain, by rw [Block.span, Block.span, hlead], hinner, ?_⟩
      rw [metadata_ofSource, metadata_ofSource, hagain, h]
      simp only [hinner]
  · intro hfirst
    cases h : find? source with
    | none => rfl
    | some block => exact absurd (opens_of_find? h).firstLine hfirst

/-- A block with a fence of points and no line feed behind it, in front of more fences; and a document
whose fences come behind its title. -/
theorem decided_at_top_fences :
    (find? "\n---\norder: 3\n... ".toList = some ⟨['\n'], "---\norder: 3\n... ".toList, []⟩ ∧
      ∃ again, find? ("\n---\norder: 3\n... ".toList ++ '\n' :: "---\norder: 4\n---\n".toList)
          = some again ∧
        again.span.start = 1 ∧ innerText again.raw = "order: 3".toList) ∧
    (((lines "# Title\n\n---\norder: 3\n---\n".toList).find?
        (fun line => !isBlankText line)).map trim ≠ some hyphens ∧
      find? "# Title\n\n---\norder: 3\n---\n".toList = none) := by
  have hfind : find? "\n---\norder: 3\n... ".toList
      = some ⟨['\n'], "---\norder: 3\n... ".toList, []⟩ := by decide +kernel
  have hfirst : ((lines "# Title\n\n---\norder: 3\n---\n".toList).find?
      (fun line => !isBlankText line)).map trim ≠ some hyphens := by decide +kernel
  obtain ⟨top, rest, hcut, hagain⟩ := (decided_at_top _).1 _ hfind
  have htop : splitAtByte? 18 "\n---\norder: 3\n... ".toList
      = some ("\n---\norder: 3\n... ".toList, []) := by decide +kernel
  obtain ⟨rfl, rfl⟩ := Prod.mk.inj (Option.some.inj (htop.symm.trans hcut))
  obtain ⟨again, hfound, hstart, hinner, -⟩ := hagain "---\norder: 4\n---\n".toList
  exact ⟨⟨hfind, again, hfound, hstart, hinner.trans (by decide +kernel)⟩, hfirst,
    (decided_at_top _).2 hfirst⟩

end Frontmatter
end DocViews
