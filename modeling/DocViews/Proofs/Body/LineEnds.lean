import DocViews.Proofs.Body.Trimming
import DocViews.Proofs.Text.Unified

/-!
# Carriage returns that are left in a body

A body is made of a text in two steps: carriage returns in front of a line feed are taken out once
for the whole text, and once more when the text is cut into lines.  So up to two of them are gone,
and of three or more all but two stay.  If such a line end is between the first and the last line of
the body, the body has a carriage return in front of a line feed (`isUnified_ofSource_iff`).

A unified body is kept as it is when a body is made of it, and no other one is
(`ofSource_ofSource_iff`): taking lines out changes no character (`trimBlankLines_sublist`), and of
a body that is not unified carriage returns are left out.
-/

set_option autoImplicit false

namespace DocViews
namespace Body

open Text

/-! ## Lines that are kept in front of others -/

/-- Lines are dropped up to the first one that is not blank. -/
theorem exists_dropWhile_append (front : List Text) (line : Text) (back : List Text)
    (h : ∃ l ∈ front ++ [line], isBlankText l = false) :
    ∃ kept, (front ++ line :: back).dropWhile isBlankText = kept ++ line :: back := by
  induction front with
  | nil =>
    obtain ⟨l, hl, hblank⟩ := h
    rw [List.nil_append, List.mem_singleton] at hl
    exact ⟨[], List.dropWhile_cons_of_neg (by simp [← hl, hblank])⟩
  | cons first more ih =>
    rw [List.cons_append]
    cases hfirst : isBlankText first with
    | false => exact ⟨first :: more, List.dropWhile_cons_of_neg (by simp [hfirst])⟩
    | true =>
      rw [List.dropWhile_cons_of_pos hfirst]
      refine ih ?_
      obtain ⟨l, hl, hblank⟩ := h
      rcases List.mem_cons.1 hl with rfl | hl
      · rw [hfirst] at hblank
        exact absurd hblank (by decide)
      · exact ⟨l, hl, hblank⟩

/-- **A line is kept in front of another one** if a line that is not blank is behind it, and it is not
blank itself or there is such a line before it. -/
theorem keptLines_eq_append_iff {text line : Text} :
    (∃ front back, keptLines text = front ++ line :: back ∧ back ≠ []) ↔
      ∃ front back, text.lines = front ++ line :: back ∧
        (∃ l ∈ front ++ [line], isBlankText l = false) ∧ ∃ l ∈ back, isBlankText l = false := by
  constructor
  · rintro ⟨front, back, hkept, hback⟩
    obtain ⟨top, bottom, hlines, -, -⟩ := exists_lines_eq text
    obtain ⟨first, more, hfirst⟩ := List.exists_cons_of_ne_nil
      (show front ++ [line] ≠ [] from List.append_ne_nil_of_right_ne_nil _ (by simp))
    have hhead : (keptLines text).head? = some first := by
      rw [hkept, List.append_cons, hfirst]
      rfl
    have hlast : (keptLines text).getLast? = some (back.getLast hback) := by
      rw [hkept, List.append_cons, List.getLast?_append_of_ne_nil _ hback,
        List.getLast?_eq_some_getLast hback]
    refine ⟨top ++ front, back ++ bottom, by rw [hlines, hkept]; simp, ⟨first, ?_, ?_⟩,
      ⟨back.getLast hback, ?_, ?_⟩⟩
    · rw [List.append_assoc, hfirst]
      exact List.mem_append_right _ List.mem_cons_self
    · exact head?_keptLines hhead
    · exact List.mem_append_left _ (List.getLast_mem hback)
    · exact getLast?_keptLines hlast
  · rintro ⟨front, back, hlines, hfront, last, hlast, hblank⟩
    obtain ⟨top, htop⟩ := exists_dropWhile_append front line back hfront
    obtain ⟨inner, bottom, rfl⟩ := List.append_of_mem hlast
    obtain ⟨rest, hrest⟩ := exists_dropWhile_append bottom.reverse last
      (inner.reverse ++ line :: top.reverse) ⟨last, by simp, hblank⟩
    refine ⟨top, inner ++ last :: rest.reverse, ?_, by simp⟩
    have hreverse : (top ++ line :: (inner ++ last :: bottom)).reverse
        = bottom.reverse ++ last :: (inner.reverse ++ line :: top.reverse) := by simp
    rw [keptLines, hlines, htop, hreverse, hrest]
    simp

/-! ## A body that is kept as it is -/

/-- There are no blank lines to take out around a text that is trimmed. -/
theorem trimBlankLines_eq_self {text : Text} (h : IsUnified text) (htrimmed : IsTrimmed text) :
    trimBlankLines text = text := by
  have hfirst := List.head?_eq_some_head (List.splitOn_ne_nil '\n' text)
  have hlast := List.getLast?_eq_some_getLast (List.splitOn_ne_nil '\n' text)
  have hend : (List.splitOn '\n' text).getLast? ≠ some [] := fun hempty =>
    absurd (htrimmed [] (Or.inr hempty)) (by decide)
  have hcut : IsOuterCut text.lines [] (List.splitOn '\n' text) [] := by
    refine ⟨?_, by simp, by simp, ⟨_, hfirst, htrimmed _ (Or.inl hfirst)⟩,
      ⟨_, hlast, htrimmed _ (Or.inr hlast)⟩⟩
    rw [lines_eq_splitOn h hend, List.nil_append, List.append_nil]
  rw [trimBlankLines_eq, hcut.keptLines_eq, List.intercalate_splitOn]

/-! ## A body leaves out characters -/

theorem trimBlankLines_sublist (text : Text) : (trimBlankLines text).Sublist text := by
  obtain ⟨front, back, hlines, -, -⟩ := exists_lines_eq text
  have hkept : (keptLines text).Sublist text.lines := by
    conv_rhs => rw [hlines]
    exact (List.sublist_append_right _ _).trans (List.sublist_append_left _ _)
  exact (intercalate_sublist hkept).trans (intercalate_lines_sublist text)

/-- **A body is the body of itself exactly when it is unified.** -/
theorem ofSource_ofSource_iff {source : Text} :
    ofSource (ofSource source) = ofSource source ↔ IsUnified (ofSource source) := by
  rw [← unifyLineEnds_eq_self_iff]
  constructor
  · intro h
    have hback : (ofSource source).Sublist (unifyLineEnds (ofSource source)) := by
      conv_lhs => rw [← h]
      exact trimBlankLines_sublist _
    exact (unifyLineEnds_sublist _).antisymm hback
  · intro h
    by_cases hne : ofSource source = []
    · rw [hne]
      rfl
    · conv_lhs => rw [ofSource, h]
      exact trimBlankLines_eq_self (unifyLineEnds_eq_self_iff.1 h) (isTrimmed_ofSource hne)

/-! ## Where carriage returns are left -/

/-- Three carriage returns in front of a line feed, with characters that are no blanks on both
sides. -/
def HasInnerReturns (text : Text) : Prop :=
  ∃ before after, text = before ++ ['\r', '\r', '\r', '\n'] ++ after ∧
    isBlankText before = false ∧ isBlankText after = false

theorem exists_shownOf_iff {texts : List Text} :
    (∃ line ∈ texts.map shownOf, isBlankText line = false) ↔ isBlankText texts.flatten = false := by
  rw [isBlankText_flatten_eq_false_iff]
  simp only [List.mem_map, exists_exists_and_eq_and, isBlankText_shownOf]

theorem isBlankText_append_returns (front : List Text) (line : Text) :
    isBlankText (front ++ [line ++ ['\r', '\r', '\r'] ++ ['\n']]).flatten
      = isBlankText (front.flatten ++ line) := by
  have hends : ['\r', '\r', '\r', '\n'].all isBlank = true := by decide
  simp only [isBlankText, List.flatten_append, List.flatten_singleton, List.append_assoc,
    List.cons_append, List.nil_append, List.all_append, hends, Bool.and_true]

/-- A line that is kept in front of another one ends in a carriage return if its piece of the text
has three. -/
theorem hasInnerReturns_iff {text : Text} :
    HasInnerReturns text ↔ ∃ front line back,
      keptLines (unifyLineEnds text) = front ++ (line ++ ['\r']) :: back ∧ back ≠ [] := by
  have hlines := lines_unifyLineEnds text
  constructor
  · rintro ⟨before, after, htext, hbefore, hafter⟩
    obtain ⟨front, line, rfl, hline, hpieces⟩ := exists_pieces_append before
    have hnewline : '\n' ∉ line ++ ['\r', '\r', '\r'] := by simpa using hline
    have hshown := (shownOf_eq_concat_iff hnewline).2 rfl
    have hcut : pieces text
        = front ++ (line ++ ['\r', '\r', '\r'] ++ ['\n']) :: pieces after := by
      have hrest : line ++ (['\r', '\r', '\r', '\n'] ++ after)
          = line ++ ['\r', '\r', '\r'] ++ '\n' :: after := by simp
      rw [htext, List.append_assoc, hpieces, hrest, pieces_append_newline hnewline]
    rw [hcut, List.map_append, List.map_cons, hshown] at hlines
    rw [exists_comm]
    refine ⟨line, keptLines_eq_append_iff.2 ⟨_, _, hlines, ?_, ?_⟩⟩
    · rw [← hshown, ← List.map_singleton, ← List.map_append, exists_shownOf_iff,
        isBlankText_append_returns]
      exact hbefore
    · rw [exists_shownOf_iff, flatten_pieces]
      exact hafter
  · rintro ⟨front, line, back, hkept, hback⟩
    obtain ⟨top, bottom, hshown, htop, hbottom⟩ :=
      keptLines_eq_append_iff.1 ⟨front, back, hkept, hback⟩
    rw [hlines] at hshown
    obtain ⟨before, rest, hpieces, rfl, hrest⟩ := List.map_eq_append_iff.1 hshown
    obtain ⟨piece, after, rfl, hpiece, rfl⟩ := List.map_eq_cons_iff.1 hrest
    have hafter : after ≠ [] := by
      rintro rfl
      exact absurd hbottom (by simp)
    obtain ⟨inner, hinner, rfl⟩ := exists_line_of_pieces_eq hpieces hafter
    have hreturns := (shownOf_eq_concat_iff hinner).1 hpiece
    subst hreturns
    refine ⟨before.flatten ++ line, after.flatten, ?_, ?_, exists_shownOf_iff.1 hbottom⟩
    · rw [← flatten_pieces text, hpieces]
      simp
    · rw [← isBlankText_append_returns, ← exists_shownOf_iff, List.map_append, List.map_singleton,
        hpiece]
      exact htop

theorem isUnified_ofSource_iff {source : Text} :
    IsUnified (ofSource source) ↔ ¬ HasInnerReturns source := by
  rw [ofSource, trimBlankLines_eq,
    isUnified_intercalate_iff fun _ => newline_notMem_of_mem_keptLines,
    hasInnerReturns_iff]
  constructor
  · rintro hall ⟨front, line, back, hkept, hback⟩
    exact hall front _ back hkept hback (List.getLast?_concat ..)
  · intro hnone front line back hkept hback hend
    obtain ⟨before, rfl⟩ := List.getLast?_eq_some_iff.1 hend
    exact hnone ⟨front, before, back, hkept, hback⟩

/-! ## Ranges that are left out -/

/-- A range whose ends are in order and stand between characters of the source. -/
structure Span.Fits (span : Span) (source : Text) : Prop where
  ordered : span.start ≤ span.stop
  start : ∃ before after, source = before ++ after ∧ byteSize before = span.start
  stop : ∃ before after, source = before ++ after ∧ byteSize before = span.stop

/-- What a source is without a range of it. -/
inductive Leaves (source : Text) : Option Span → Text → Prop
  | all : Leaves source none source
  | around {before cut after : Text} (h : source = before ++ (cut ++ after)) :
      Leaves source (some ⟨byteSize before, byteSize before + byteSize cut⟩) (before ++ after)

theorem exists_leaves {source : Text} {span : Option Span}
    (h : ∀ range ∈ span, range.Fits source) : ∃ rest, Leaves source span rest := by
  cases span with
  | none => exact ⟨source, .all⟩
  | some range =>
    obtain ⟨start, stop⟩ := range
    obtain ⟨hordered, ⟨before, rest, hstart, rfl⟩, ⟨front, after, hstop, rfl⟩⟩ := h _ rfl
    -- the text up to the end of the range begins with the text up to its start
    obtain ⟨cut, rfl⟩ : before <+: front := by
      rcases List.append_eq_append_iff.1 (hstart.symm.trans hstop) with
        ⟨cut, hcut, -⟩ | ⟨more, hmore, -⟩
      · exact ⟨cut, hcut.symm⟩
      · have hsize : byteSize before = byteSize front + byteSize more := by
          rw [hmore, byteSize_append]
        have hnil : more = [] := byteSize_eq_zero_iff.1 (by simp only at hordered; omega)
        rw [hmore, hnil, List.append_nil]
    rw [byteSize_append]
    exact ⟨before ++ after, .around (by rw [hstop, List.append_assoc])⟩

theorem segment?_of_leaves {source rest : Text} {span : Option Span}
    (h : Leaves source span rest) : segment? source span = some (ofSource rest) := by
  cases h with
  | all => rfl
  | @around before cut after h =>
    subst h
    have hfront := splitAtByte?_byteSize before (cut ++ after)
    have hback := splitAtByte?_byteSize (before ++ cut) after
    rw [byteSize_append, List.append_assoc] at hback
    simp [segment?, withoutSpan?, hfront, hback]

/-- **Up to two carriage returns in front of a line feed are taken out.**  There is a body whatever
range is left out of the source.  It has no carriage return in front of a line feed exactly when there
were not three of them between characters that are no blanks, and in the same cases it is its own
body. -/
theorem segment?_unified_iff {source : Text} {span : Option Span}
    (h : ∀ range ∈ span, range.Fits source) :
    ∃ rest body, Leaves source span rest ∧ segment? source span = some body ∧
      (IsUnified body ↔ ¬ HasInnerReturns rest) ∧
      (segment? body none = some body ↔ ¬ HasInnerReturns rest) := by
  obtain ⟨rest, hrest⟩ := exists_leaves h
  refine ⟨rest, ofSource rest, hrest, segment?_of_leaves hrest, isUnified_ofSource_iff, ?_⟩
  rw [segment?, Option.some.injEq, ofSource_ofSource_iff, isUnified_ofSource_iff]

/-- A range whose ends bring three carriage returns together, behind a character of two bytes. -/
theorem segment?_unified_iff_around :
    (∀ range ∈ some (Span.mk 3 6), range.Fits "é\r---\r\r\nb".toList) ∧
    ∃ rest, Leaves "é\r---\r\r\nb".toList (some ⟨3, 6⟩) rest ∧ HasInnerReturns rest ∧
      segment? "é\r---\r\r\nb".toList (some ⟨3, 6⟩) = some "é\r\nb".toList ∧
      segment? "é\r\nb".toList none ≠ some "é\r\nb".toList := by
  have hfits : ∀ range ∈ some (Span.mk 3 6), range.Fits "é\r---\r\r\nb".toList := by
    intro range hrange
    rw [← Option.some.inj hrange]
    exact ⟨by decide, ⟨"é\r".toList, "---\r\r\nb".toList, by decide +kernel, by decide +kernel⟩,
      ⟨"é\r---".toList, "\r\r\nb".toList, by decide +kernel, by decide +kernel⟩⟩
  have hbody : segment? "é\r---\r\r\nb".toList (some ⟨3, 6⟩) = some "é\r\nb".toList := by
    decide +kernel
  obtain ⟨rest, body, hrest, hsegment, hunified, hagain⟩ := segment?_unified_iff hfits
  obtain rfl := Option.some.inj (hsegment.symm.trans hbody)
  have hreturns : HasInnerReturns rest := by
    by_contra hnone
    exact absurd (hunified.2 hnone) (by decide +kernel)
  exact ⟨hfits, rest, hrest, hreturns, hbody, fun h => hagain.1 h hreturns⟩

/-- A body may have a carriage return in front of a line feed, and then it is not its own body. -/
theorem segment?_three_returns :
    segment? "a\r\r\r\nb".toList none = some "a\r\nb".toList ∧
      ¬ IsUnified "a\r\nb".toList ∧
      segment? "a\r\nb".toList none = some "a\nb".toList := by
  decide +kernel

end Body
end DocViews
