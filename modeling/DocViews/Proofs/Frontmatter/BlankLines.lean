import DocViews.Proofs.Frontmatter.Fences
import DocViews.Proofs.Frontmatter.Locality
import DocViews.Proofs.Frontmatter.Partition
import DocViews.Proofs.Text.LineEnds

/-!
# Documents behind blank lines

Blank lines may stand in front of a block with content, and it is found behind them as it was
(`filledBlock?_behindLines`).  The empty block is looked for at the very start of a document only.
So line feeds in front of a document change nothing about its block, its metadata and its body,
unless the document begins with an empty block: `find?_behindLines_iff`.

Behind a line feed the two fences of an empty block are text of the body, or the first lines of a
block with content that goes on to a later fence (`exists_raw_of_opensEmpty`).  Either way the body
is another one.
-/

set_option autoImplicit false

namespace DocViews
namespace Frontmatter

open Text

variable {k : Nat} {source : Text} {block : Block}

/-- A document behind so many line feeds. -/
def behindLines (k : Nat) (source : Text) : Text :=
  List.replicate k '\n' ++ source

theorem behindLines_succ (k : Nat) (source : Text) :
    behindLines (k + 1) source = '\n' :: behindLines k source :=
  rfl

/-- The block of a document behind so many line feeds. -/
def Block.behind (k : Nat) (block : Block) : Block :=
  { block with lead := behindLines k block.lead }

theorem byteSize_behindLines (k : Nat) (text : Text) :
    byteSize (behindLines k text) = byteSize text + k := by
  induction k with
  | zero => rfl
  | succ k ih =>
    have hnewline : '\n'.utf8Size = 1 := by decide
    rw [behindLines_succ, byteSize, ih, hnewline]
    omega

theorem Block.span_behind (k : Nat) (block : Block) :
    (block.behind k).span = ⟨block.span.start + k, block.span.stop + k⟩ := by
  simp only [Block.span, Block.behind, byteSize_behindLines, Body.Span.mk.injEq, true_and]
  omega

theorem Block.remainder_behind (k : Nat) (block : Block) :
    (block.behind k).remainder = behindLines k block.remainder :=
  List.append_assoc ..

/-! ## The block with content -/

theorem fromFirstLine_behindLines (k : Nat) (source : Text) :
    fromFirstLine (behindLines k source) (behindLines k source) = fromFirstLine source source := by
  induction k with
  | zero => rfl
  | succ k ih => rw [behindLines_succ, fromFirstLine, if_pos (by decide), ih]

/-- What stands in front of the first line is longer by the line feeds. -/
theorem take_behindLines_fromFirstLine (k : Nat) (source : Text) :
    (behindLines k source).take
        ((behindLines k source).length - (fromFirstLine source source).length)
      = behindLines k (source.take (source.length - (fromFirstLine source source).length)) := by
  obtain ⟨hsource, -⟩ := take_append_fromFirstLine source
  have hboth : behindLines k source
      = behindLines k (source.take (source.length - (fromFirstLine source source).length))
        ++ fromFirstLine source source := by
    rw [behindLines, behindLines, List.append_assoc, hsource]
  rw [hboth, List.length_append, Nat.add_sub_cancel, List.take_left]

theorem filledBlock?_behindLines (k : Nat) (source : Text) :
    filledBlock? (behindLines k source) = (filledBlock? source).map (Block.behind k) := by
  rw [filledBlock?, filledBlock?]
  simp only [fromFirstLine_behindLines, take_behindLines_fromFirstLine]
  cases pieces (fromFirstLine source source) with
  | nil => rfl
  | cons opening rest =>
    cases rest with
    | nil => rfl
    | cons first more =>
      simp only
      split
      · rw [Option.map_map]
        rfl
      · rfl

/-! ## The empty block -/

/-- A document whose first two lines are an opening and a closing fence. -/
def OpensEmpty (source : Text) : Prop :=
  ∃ opening closing more, HasFences source opening [] closing more

theorem opensEmpty_iff : OpensEmpty source ↔ ∃ block, emptyBlock? source = some block := by
  simp only [emptyBlock?_eq_some_iff]
  constructor
  · rintro ⟨opening, closing, more, h⟩
    exact ⟨_, opening, closing, more, h.pieces_eq, h.opening, h.closing, rfl⟩
  · rintro ⟨block, opening, closing, more, hpieces, hopening, hclosing, -⟩
    exact ⟨opening, closing, more, hpieces, hopening, by simp, hclosing⟩

theorem emptyBlock?_eq_none_iff : emptyBlock? source = none ↔ ¬ OpensEmpty source := by
  rw [opensEmpty_iff, not_exists, Option.eq_none_iff_forall_ne_some]

instance (source : Text) : Decidable (OpensEmpty source) :=
  decidable_of_iff ((emptyBlock? source).isSome = true)
    (Option.isSome_iff_exists.trans opensEmpty_iff.symm)

/-- A first line without hyphens is no fence. -/
theorem emptyBlock?_behindLines_succ (k : Nat) (source : Text) :
    emptyBlock? (behindLines (k + 1) source) = none := by
  have hpieces : pieces ('\n' :: behindLines k source) = ['\n'] :: pieces (behindLines k source) :=
    pieces_append_newline List.not_mem_nil _
  rw [behindLines_succ, emptyBlock?, hpieces]
  cases pieces (behindLines k source) with
  | nil => rfl
  | cons second more => rfl

/-! ## Both -/

/-- Behind a line feed only a block with content may be found. -/
theorem find?_behindLines_succ (k : Nat) (source : Text) :
    find? (behindLines (k + 1) source) = (filledBlock? source).map (Block.behind (k + 1)) := by
  rw [find?_eq, emptyBlock?_behindLines_succ, filledBlock?_behindLines]
  rfl

/-- **A block is found behind blank lines**, unless it is an empty one. -/
theorem find?_behindLines (h : k = 0 ∨ ¬ OpensEmpty source) :
    find? (behindLines k source) = (find? source).map (Block.behind k) := by
  cases k with
  | zero => exact Option.map_id'.symm
  | succ k =>
    have hempty := emptyBlock?_eq_none_iff.2 (h.resolve_left (Nat.succ_ne_zero k))
    rw [find?_behindLines_succ, find?_eq, hempty]
    rfl

theorem isBlankText_of_isClosing {line : Text} (h : isClosing line = true) :
    isBlankText line = false := by
  rw [← Bool.not_eq_true, ← trimEnd_eq_nil_iff]
  rw [isClosing, Bool.or_eq_true, decide_eq_true_iff, decide_eq_true_iff] at h
  rcases h with h | h <;> rw [h] <;> decide

/-- **What begins like an empty block may be the top of a longer one.**  If there is a block with
content as well, it takes in both fences and goes on to another one. -/
theorem exists_raw_of_opensEmpty {empty filled : Block} (hempty : emptyBlock? source = some empty)
    (hfilled : filledBlock? source = some filled) :
    ∃ more, filled.raw = empty.raw ++ more ∧ isBlankText more = false := by
  obtain ⟨opening, closing, rest, hpieces, hopening, hclosing, rfl⟩ :=
    emptyBlock?_eq_some_iff.1 hempty
  have hfences : HasFences source opening [] closing rest :=
    ⟨hpieces, hopening, by simp, hclosing⟩
  obtain ⟨opening', first, inner, piece, behind, n, hstart, -, -, hn, rfl⟩ :=
    filledBlock?_eq_some_iff.1 hfilled
  rw [hfences.fromFirstLine_eq, hpieces] at hstart
  obtain ⟨rfl, hlines⟩ := List.cons.inj hstart
  obtain ⟨rfl, -⟩ := List.cons.inj hlines
  have hfence := isBlankText_of_isClosing (pieces_take_of_fenceLength? hn).2
  refine ⟨inner.flatten ++ piece.take n, rfl, ?_⟩
  rw [isBlankText] at hfence ⊢
  rw [List.all_append, hfence, Bool.and_false]

/-! ## Bodies -/

theorem ofSource_behindLines (k : Nat) (text : Text) :
    Body.ofSource (behindLines k text) = Body.ofSource text := by
  induction k with
  | zero => rfl
  | succ k ih =>
    have hlines : lines ('\n' :: unifyLineEnds (behindLines k text))
        = [] :: lines (unifyLineEnds (behindLines k text)) :=
      lines_append_newline List.not_mem_nil _
    rw [← ih, behindLines_succ, Body.ofSource, Body.trimBlankLines,
      unifyLineEnds_cons_of_ne (by decide), hlines, List.dropWhile_cons_of_pos rfl]
    rfl

/-- The body of a document, cut around its block. -/
def bodyOf? (source : Text) : Option Text :=
  Body.segment? source ((find? source).map Block.span)

theorem bodyOf?_eq (source : Text) :
    bodyOf? source = some (Body.ofSource (((find? source).map Block.remainder).getD source)) := by
  rw [bodyOf?]
  cases h : find? source with
  | none => rfl
  | some block => exact (opens_of_find? h).segment?_span

/-- Block and body hold the characters of a document that are no blanks. -/
theorem nonBlank_of_bodyOf? {body : Text} (h : bodyOf? source = some body) :
    nonBlank source = nonBlank (((find? source).map Block.raw).getD []) ++ nonBlank body := by
  rw [bodyOf?_eq, Option.some.injEq] at h
  subst h
  rw [Body.nonBlank_ofSource]
  cases h : find? source with
  | none => rfl
  | some block => exact (opens_of_find? h).nonBlank_eq

theorem nonBlank_behindLines (k : Nat) (source : Text) :
    nonBlank (behindLines k source) = nonBlank source := by
  have hlines : isBlankText (List.replicate k '\n') = true := by
    rw [isBlankText, List.all_eq_true]
    intro c hc
    rw [List.eq_of_mem_replicate hc]
    rfl
  rw [behindLines, nonBlank_append, nonBlank_eq_nil_iff.2 hlines, List.nil_append]

/-- Behind a line feed there is something else in the block of a document that opens with an empty
one. -/
theorem nonBlank_raw_ne (hk : k ≠ 0) (h : OpensEmpty source) :
    nonBlank (((find? (behindLines k source)).map Block.raw).getD [])
      ≠ nonBlank (((find? source).map Block.raw).getD []) := by
  obtain ⟨n, rfl⟩ := Nat.exists_eq_succ_of_ne_zero hk
  obtain ⟨empty, hempty⟩ := opensEmpty_iff.1 h
  have hfind : find? source = some empty := by rw [find?_eq, hempty]; rfl
  rw [find?_behindLines_succ, hfind]
  intro heq
  cases hfilled : filledBlock? source with
  | none =>
    obtain ⟨opening, closing, rest, -, -, hclosing, rfl⟩ := emptyBlock?_eq_some_iff.1 hempty
    rw [hfilled] at heq
    have hnone : nonBlank opening ++ nonBlank closing = [] := by
      rw [← nonBlank_append]
      exact heq.symm
    have hblank := nonBlank_eq_nil_iff.1 (List.append_eq_nil_iff.1 hnone).2
    rw [isBlankText_of_isClosing hclosing] at hblank
    exact absurd hblank (by decide)
  | some filled =>
    obtain ⟨more, hraw, hmore⟩ := exists_raw_of_opensEmpty hempty hfilled
    rw [hfilled] at heq
    have hlonger : nonBlank filled.raw = nonBlank empty.raw := heq
    rw [hraw, nonBlank_append, List.append_right_eq_self, nonBlank_eq_nil_iff, hmore] at hlonger
    exact absurd hlonger (by decide)

/-! ## Behind blank lines -/

/-- A block is found behind so many line feeds exactly if it was found without them, with the same
text and further down by their number. -/
structure FoundBehind (k : Nat) (source : Text) : Prop where
  of_none : find? source = none → find? (behindLines k source) = none
  of_some : ∀ block, find? source = some block → ∃ again,
    find? (behindLines k source) = some again ∧ again.raw = block.raw ∧
      again.span = ⟨block.span.start + k, block.span.stop + k⟩

theorem foundBehind_iff : FoundBehind k source ↔ k = 0 ∨ ¬ OpensEmpty source := by
  constructor
  · refine fun h => or_iff_not_imp_left.2 fun hk hopens => nonBlank_raw_ne hk hopens ?_
    cases hfind : find? source with
    | none => rw [h.of_none hfind]
    | some block =>
      obtain ⟨again, hagain, hraw, -⟩ := h.of_some block hfind
      rw [hagain, Option.map_some, Option.map_some, hraw]
  · intro h
    refine ⟨fun hnone => ?_, fun block hblock => ⟨block.behind k, ?_, rfl, block.span_behind k⟩⟩
    · rw [find?_behindLines h, hnone]
      rfl
    · rw [find?_behindLines h, hblock]
      rfl

theorem bodyOf?_behindLines_iff :
    bodyOf? (behindLines k source) = bodyOf? source ↔ k = 0 ∨ ¬ OpensEmpty source := by
  constructor
  · refine fun h => or_iff_not_imp_left.2 fun hk hopens => nonBlank_raw_ne hk hopens ?_
    -- what is no blank is in the block or in the body, so equal bodies leave equal blocks
    have hall := nonBlank_of_bodyOf? (h.trans (bodyOf?_eq source))
    rw [nonBlank_behindLines, nonBlank_of_bodyOf? (bodyOf?_eq source)] at hall
    exact (List.append_cancel_right hall).symm
  · intro h
    rw [bodyOf?_eq, bodyOf?_eq, find?_behindLines h]
    cases find? source with
    | none => exact congrArg some (ofSource_behindLines k source)
    | some block =>
      rw [Option.map_map, Option.map_some, Option.map_some, Option.getD_some, Option.getD_some,
        Function.comp_apply, Block.remainder_behind, ofSource_behindLines]

theorem metadata_behindLines (h : k = 0 ∨ ¬ OpensEmpty source) :
    (Content.ofSource (behindLines k source)).map Content.metadata
      = (Content.ofSource source).map Content.metadata := by
  rw [metadata_ofSource, metadata_ofSource, find?_behindLines h]
  cases find? source <;> rfl

/-- **Blank lines in front of a document change nothing, unless it begins with an empty block.**
Otherwise the block is found in its place with the same text, and the metadata and the body are the
same.  Behind an empty block it is another block, or none, and another body. -/
theorem find?_behindLines_iff (k : Nat) (source : Text) :
    (FoundBehind k source ↔ k = 0 ∨ ¬ OpensEmpty source) ∧
      (bodyOf? (behindLines k source) = bodyOf? source ↔ k = 0 ∨ ¬ OpensEmpty source) ∧
      (k = 0 ∨ ¬ OpensEmpty source →
        (Content.ofSource (behindLines k source)).map Content.metadata
          = (Content.ofSource source).map Content.metadata) :=
  ⟨foundBehind_iff, bodyOf?_behindLines_iff, metadata_behindLines⟩

theorem find?_behindLines_iff_order :
    ¬ OpensEmpty "---\norder: 1\n---\nBody".toList ∧
      FoundBehind 3 "---\norder: 1\n---\nBody".toList ∧
      bodyOf? "\n\n\n---\norder: 1\n---\nBody".toList = some "Body".toList ∧
      (Content.ofSource "\n\n\n---\norder: 1\n---\nBody".toList).map Content.metadata
        = (Content.ofSource "---\norder: 1\n---\nBody".toList).map Content.metadata := by
  have hopens : ¬ OpensEmpty "---\norder: 1\n---\nBody".toList := by decide +kernel
  obtain ⟨hfind, hbody, hmetadata⟩ := find?_behindLines_iff 3 "---\norder: 1\n---\nBody".toList
  exact ⟨hopens, hfind.2 (.inr hopens), (hbody.2 (.inr hopens)).trans (by decide +kernel),
    hmetadata (.inr hopens)⟩

/-- An empty block is not found behind a line feed: its fences are text of the body then, or they
begin a block with content, whose metadata the document is given. -/
theorem find?_behind_empty :
    find? "---\n---\n".toList = some ⟨[], "---\n---\n".toList, []⟩ ∧
      find? (behindLines 1 "---\n---\n".toList) = none ∧
      bodyOf? "---\n---\n".toList = some [] ∧
      bodyOf? (behindLines 1 "---\n---\n".toList) = some "---\n---".toList ∧
      find? "---\n---\t\norder: 5\n---\n".toList
        = some ⟨[], "---\n---\t\n".toList, "order: 5\n---\n".toList⟩ ∧
      find? (behindLines 1 "---\n---\t\norder: 5\n---\n".toList)
        = some ⟨['\n'], "---\n---\t\norder: 5\n---".toList, ['\n']⟩ := by
  decide +kernel

end Frontmatter
end DocViews
