import DocViews.Body
import Mathlib.Data.List.TakeWhile

/-!
# Lines, and what they keep of a text

A text is either a last line, or a line, a line feed and more text (`induction_on_lines`).  The
pieces and the lines of a text follow this form (`pieces_append_newline`, `lines_append_newline`).

`nonBlank` is what is left of a text when its blanks are taken out.  Unifying line ends, cutting
into lines and trimming blank lines change blanks only, so a body holds the same characters as the
source that it is made of (`nonBlank_ofSource`).
-/

set_option autoImplicit false

namespace DocViews
namespace Text

/-! ## Pieces -/

/-- Every text is a line, or a line in front of a text. -/
theorem induction_on_lines {motive : Text → Prop} (text : Text)
    (last : ∀ line, '\n' ∉ line → motive line)
    (more : ∀ line rest, '\n' ∉ line → motive rest → motive (line ++ '\n' :: rest)) :
    motive text := by
  induction hn : text.length using Nat.strong_induction_on generalizing text with
  | _ n ih =>
    by_cases hmem : '\n' ∈ text
    · obtain ⟨line, rest, rfl, hline⟩ := List.eq_append_cons_of_mem hmem
      refine more line rest hline (ih rest.length ?_ rest rfl)
      rw [← hn, List.length_append, List.length_cons]
      omega
    · exact last text hmem

theorem pieces_of_notMem {line : Text} (hne : line ≠ []) (h : '\n' ∉ line) :
    pieces line = [line] := by
  induction line with
  | nil => exact absurd rfl hne
  | cons c rest ih =>
    rw [List.mem_cons, not_or] at h
    rw [pieces, if_neg (Ne.symm h.1)]
    cases rest with
    | nil => rfl
    | cons d more => rw [ih (List.cons_ne_nil _ _) h.2]

theorem length_pieces_le_one {line : Text} (h : '\n' ∉ line) : (pieces line).length ≤ 1 := by
  by_cases hne : line = []
  · rw [hne]
    exact Nat.zero_le 1
  · rw [pieces_of_notMem hne h]
    exact Nat.le_refl 1

theorem pieces_append_newline {line : Text} (h : '\n' ∉ line) (rest : Text) :
    pieces (line ++ '\n' :: rest) = (line ++ ['\n']) :: pieces rest := by
  induction line with
  | nil => rw [List.nil_append, pieces, if_pos rfl, List.nil_append]
  | cons c more ih =>
    rw [List.mem_cons, not_or] at h
    rw [List.cons_append, pieces, if_neg (Ne.symm h.1), ih h.2, List.cons_append]

/-- A piece that ends in a line feed is cut off whole. -/
theorem pieces_piece_append {line : Text} (h : '\n' ∉ line) (rest : Text) :
    pieces ((line ++ ['\n']) ++ rest) = (line ++ ['\n']) :: pieces rest := by
  rw [List.append_assoc, List.singleton_append, pieces_append_newline h]

/-- A text can be cut behind any line feed, and the pieces on both sides are those of the text. -/
theorem pieces_newline_append (text rest : Text) :
    pieces (text ++ '\n' :: rest) = pieces (text ++ ['\n']) ++ pieces rest := by
  induction text using induction_on_lines with
  | last line hline =>
    rw [pieces_append_newline hline, pieces_append_newline hline]
    rfl
  | more line text hline ih =>
    rw [List.append_assoc, List.cons_append, pieces_append_newline hline, ih, List.append_assoc,
      List.cons_append, pieces_append_newline hline, List.cons_append]

/-- A piece that is not the last one has a line feed, and the rest is cut by itself. -/
theorem exists_of_pieces_eq_cons_cons {text first second : Text} {more : List Text}
    (h : pieces text = first :: second :: more) :
    ∃ line rest, '\n' ∉ line ∧ first = line ++ ['\n'] ∧ text = line ++ '\n' :: rest ∧
      pieces rest = second :: more := by
  induction text using induction_on_lines with
  | last line hline =>
    have hlength := length_pieces_le_one hline
    rw [h, List.length_cons, List.length_cons] at hlength
    omega
  | more line rest hline _ =>
    rw [pieces_append_newline hline] at h
    obtain ⟨rfl, hrest⟩ := List.cons.inj h
    exact ⟨line, rest, hline, rfl, rfl, hrest⟩

/-- What stands in front of a text with two pieces changes its first piece only. -/
theorem pieces_append_of_eq_cons_cons {text first second : Text} {more : List Text}
    (h : pieces text = first :: second :: more) (front : Text) :
    pieces (front ++ text) = pieces (front ++ first) ++ second :: more := by
  obtain ⟨line, rest, -, rfl, rfl, hrest⟩ := exists_of_pieces_eq_cons_cons h
  rw [← List.append_assoc, pieces_newline_append, hrest, List.append_assoc]

/-- Pieces in front of another one are cut off again, whatever follows them. -/
theorem pieces_flatten_append {text piece : Text} {front back : List Text}
    (h : pieces text = front ++ piece :: back) (after : Text) :
    pieces (front.flatten ++ after) = front ++ pieces after := by
  induction text using induction_on_lines generalizing front with
  | last line hline =>
    cases front with
    | nil => rfl
    | cons first more =>
      have hlength := length_pieces_le_one hline
      rw [h, List.length_append, List.length_cons, List.length_cons] at hlength
      omega
  | more line rest hline ih =>
    cases front with
    | nil => rfl
    | cons first more =>
      rw [pieces_append_newline hline] at h
      obtain ⟨rfl, hrest⟩ := List.cons.inj h
      rw [List.flatten_cons, List.append_assoc, pieces_piece_append hline, ih hrest,
        List.cons_append]

/-- The first pieces of a text are the pieces of its beginning. -/
theorem pieces_flatten_of_append {text : Text} {front back : List Text}
    (h : pieces text = front ++ back) : pieces front.flatten = front := by
  cases back with
  | nil =>
    rw [List.append_nil] at h
    rw [← h, flatten_pieces]
  | cons piece more =>
    have hfront := pieces_flatten_append h []
    rwa [List.append_nil, show pieces [] = [] from rfl, List.append_nil] at hfront

/-- A text is whole pieces and a beginning of the next one, whatever follows it. -/
theorem exists_pieces_append (text : Text) :
    ∃ front line, text = front.flatten ++ line ∧ '\n' ∉ line ∧
      ∀ rest, pieces (text ++ rest) = front ++ pieces (line ++ rest) := by
  induction text using induction_on_lines with
  | last line hline => exact ⟨[], line, rfl, hline, fun rest => rfl⟩
  | more first text hfirst ih =>
    obtain ⟨front, line, rfl, hline, hrest⟩ := ih
    refine ⟨(first ++ ['\n']) :: front, line, by simp, hline, fun rest => ?_⟩
    rw [List.append_assoc, List.cons_append, pieces_append_newline hfirst, hrest, List.cons_append]

/-- A piece in front of another one has its line feed. -/
theorem exists_line_of_pieces_eq {text piece : Text} {front back : List Text}
    (h : pieces text = front ++ piece :: back) (hback : back ≠ []) :
    ∃ line, '\n' ∉ line ∧ piece = line ++ ['\n'] := by
  obtain ⟨next, more, rfl⟩ := List.exists_cons_of_ne_nil hback
  have hrest : pieces (piece :: next :: more).flatten = piece :: next :: more := by
    have hcut := pieces_flatten_append h (piece :: next :: more).flatten
    rw [← List.flatten_append, ← h, flatten_pieces, h] at hcut
    exact (List.append_cancel_left hcut).symm
  obtain ⟨line, -, hline, hpiece, -⟩ := exists_of_pieces_eq_cons_cons hrest
  exact ⟨line, hline, hpiece⟩

/-- A piece is a line, or a line with its line feed. -/
theorem cases_of_mem_pieces {text piece : Text} (h : piece ∈ pieces text) :
    ∃ line, '\n' ∉ line ∧ (piece = line ∨ piece = line ++ ['\n']) := by
  induction text using induction_on_lines with
  | last line hline =>
    by_cases hne : line = []
    · rw [hne] at h
      exact absurd h List.not_mem_nil
    · rw [pieces_of_notMem hne hline, List.mem_singleton] at h
      exact ⟨line, hline, Or.inl h⟩
  | more line rest hline ih =>
    rw [pieces_append_newline hline, List.mem_cons] at h
    rcases h with rfl | h
    · exact ⟨line, hline, Or.inr rfl⟩
    · exact ih h

/-! ## Line ends -/

/-- Dropping a line end drops blanks at the end, if anything. -/
theorem exists_dropLineEnd (piece : Text) :
    ∃ ending, piece = dropLineEnd piece ++ ending ∧ isBlankText ending = true := by
  rw [dropLineEnd]
  split
  · next line h =>
    refine ⟨['\r', '\n'], ?_, by decide⟩
    rw [← List.reverse_reverse piece, h, List.reverse_cons, List.reverse_cons, List.append_assoc]
    rfl
  · next line _ h =>
    refine ⟨['\n'], ?_, by decide⟩
    rw [← List.reverse_reverse piece, h, List.reverse_cons]
  · exact ⟨[], (List.append_nil piece).symm, rfl⟩

theorem dropLineEnd_of_notMem {line : Text} (h : '\n' ∉ line) : dropLineEnd line = line := by
  rw [← List.mem_reverse] at h
  rw [dropLineEnd]
  split
  · next more hmore => exact absurd (hmore ▸ List.mem_cons_self) h
  · next more _ hmore => exact absurd (hmore ▸ List.mem_cons_self) h
  · rfl

/-- Behind a line that does not end in a carriage return, a line end is a line feed. -/
theorem dropLineEnd_newline {line : Text} (h : line.getLast? ≠ some '\r') :
    dropLineEnd (line ++ ['\n']) = line := by
  rw [← List.head?_reverse] at h
  rw [dropLineEnd, List.reverse_append, List.reverse_singleton, List.singleton_append]
  split
  · next more hmore =>
    rw [(List.cons.inj hmore).2] at h
    exact absurd rfl h
  · next more _ hmore => rw [← (List.cons.inj hmore).2, List.reverse_reverse]
  · next hnewline => exact absurd rfl (hnewline line.reverse)

/-- Without carriage returns a line end is a line feed. -/
theorem dropLineEnd_append_newline {line : Text} (h : '\r' ∉ line) :
    dropLineEnd (line ++ ['\n']) = line :=
  dropLineEnd_newline fun hlast => h (List.mem_of_getLast? hlast)

theorem dropLineEnd_append_return_newline (line : Text) :
    dropLineEnd (line ++ ['\r', '\n']) = line := by
  rw [dropLineEnd, List.reverse_append]
  exact List.reverse_reverse line

/-- At most a carriage return is dropped with the line feed. -/
theorem dropLineEnd_isPrefix (line : Text) : dropLineEnd (line ++ ['\n']) <+: line := by
  rw [dropLineEnd, List.reverse_append, List.reverse_singleton, List.singleton_append]
  split
  · next more hmore =>
    refine ⟨['\r'], ?_⟩
    rw [← List.reverse_reverse line, (List.cons.inj hmore).2, List.reverse_cons]
  · next more _ hmore =>
    have hline : more.reverse = line := by
      rw [← (List.cons.inj hmore).2, List.reverse_reverse]
    exact hline ▸ List.prefix_rfl
  · next h => exact absurd rfl (h line.reverse)

/-! ## Lines -/

theorem lines_append_newline {line : Text} (h : '\n' ∉ line) (rest : Text) :
    lines (line ++ '\n' :: rest) = dropLineEnd (line ++ ['\n']) :: lines rest := by
  rw [lines, pieces_append_newline h, List.map_cons, lines]

theorem newline_notMem_of_mem_lines {text line : Text} (h : line ∈ lines text) : '\n' ∉ line := by
  obtain ⟨piece, hpiece, rfl⟩ := List.mem_map.1 h
  obtain ⟨front, hfront, rfl | rfl⟩ := cases_of_mem_pieces hpiece
  · obtain ⟨ending, heq, -⟩ := exists_dropLineEnd piece
    exact fun hmem => hfront (heq ▸ List.mem_append_left ending hmem)
  · exact fun hmem => hfront ((dropLineEnd_isPrefix front).subset hmem)

/-! ## Blanks at the end -/

theorem exists_trimEnd (text : Text) :
    ∃ blanks, text = trimEnd text ++ blanks ∧ isBlankText blanks = true := by
  refine ⟨(text.reverse.takeWhile isBlank).reverse, ?_, ?_⟩
  · rw [trimEnd, ← List.reverse_append, List.takeWhile_append_dropWhile, List.reverse_reverse]
  · rw [isBlankText_reverse]
    exact List.all_takeWhile

/-- Blanks behind a text are trimmed. -/
theorem trimEnd_append {text ending : Text} (h : isBlankText ending = true) :
    trimEnd (text ++ ending) = trimEnd text := by
  have hdrop : ending.reverse.dropWhile isBlank = [] := by
    rw [dropWhile_isBlank_eq_nil_iff, isBlankText_reverse]
    exact h
  rw [trimEnd, trimEnd, List.reverse_append, List.dropWhile_append, hdrop]
  rfl

theorem trimEnd_dropLineEnd (piece : Text) : trimEnd (dropLineEnd piece) = trimEnd piece := by
  obtain ⟨ending, hpiece, hending⟩ := exists_dropLineEnd piece
  calc trimEnd (dropLineEnd piece) = trimEnd (dropLineEnd piece ++ ending) :=
        (trimEnd_append hending).symm
    _ = trimEnd piece := by rw [← hpiece]

/-- The lines of a join of lines, but for carriage returns at their ends. -/
theorem exists_of_mem_lines_intercalate {texts : List Text} (htexts : ∀ text ∈ texts, '\n' ∉ text)
    {line : Text} (h : line ∈ lines (List.intercalate ['\n'] texts)) :
    ∃ text ∈ texts, trimEnd line = trimEnd text := by
  match texts with
  | [] => exact absurd h List.not_mem_nil
  | [text] =>
    rw [List.intercalate_singleton, lines] at h
    obtain ⟨piece, hpiece, rfl⟩ := List.mem_map.1 h
    have hne : text ≠ [] := by
      rintro rfl
      exact List.not_mem_nil hpiece
    rw [pieces_of_notMem hne (htexts text List.mem_cons_self), List.mem_singleton] at hpiece
    exact ⟨text, List.mem_cons_self, by rw [hpiece, trimEnd_dropLineEnd]⟩
  | text :: next :: texts =>
    obtain ⟨htext, hmore⟩ := List.forall_mem_cons.1 htexts
    rw [List.intercalate_cons_cons, List.append_assoc, List.singleton_append,
      lines_append_newline htext,
      List.mem_cons] at h
    rcases h with rfl | h
    · refine ⟨text, List.mem_cons_self, ?_⟩
      rw [trimEnd_dropLineEnd, trimEnd_append (by decide)]
    · obtain ⟨other, hother, heq⟩ := exists_of_mem_lines_intercalate hmore h
      exact ⟨other, List.mem_cons_of_mem _ hother, heq⟩

/-- Only what is behind the last character that is no blank is trimmed at the end. -/
theorem trimEnd_append_of_not_blank {text : Text} (h : isBlankText text = false) (front : Text) :
    trimEnd (front ++ text) = front ++ trimEnd text := by
  have hne : text.reverse.dropWhile isBlank ≠ [] := by
    rw [Ne, dropWhile_isBlank_eq_nil_iff, isBlankText_reverse, h]
    decide
  rw [trimEnd, trimEnd, List.reverse_append, List.dropWhile_append]
  cases hdrop : text.reverse.dropWhile isBlank with
  | nil => exact absurd hdrop hne
  | cons c rest => rw [List.isEmpty_cons, if_neg (by decide), List.reverse_append,
      List.reverse_reverse]

/-- Blanks in front of a text are trimmed. -/
theorem trimStart_append {front : Text} (h : isBlankText front = true) (text : Text) :
    trimStart (front ++ text) = trimStart text :=
  List.dropWhile_append_of_pos (List.all_eq_true.1 h)

theorem trimStart_cons_of_blank {c : Char} (h : isBlank c = true) (rest : Text) :
    trimStart (c :: rest) = trimStart rest :=
  List.dropWhile_cons_of_pos h

theorem trimStart_cons_of_not_blank {c : Char} (h : isBlank c = false) (rest : Text) :
    trimStart (c :: rest) = c :: rest :=
  List.dropWhile_cons_of_neg (by rw [h]; decide)

/-- A first character that is no blank stays where it is. -/
theorem trimEnd_cons_of_not_blank {c : Char} (h : isBlank c = false) (rest : Text) :
    trimEnd (c :: rest) = c :: trimEnd rest := by
  cases hrest : isBlankText rest with
  | true =>
    have hone : trimEnd (c :: rest) = trimEnd [c] := @trimEnd_append [c] rest hrest
    rw [hone, trimEnd_eq_nil_iff.2 hrest, trimEnd, List.reverse_singleton,
      List.dropWhile_cons_of_neg (by rw [h]; decide), List.reverse_singleton]
  | false => exact trimEnd_append_of_not_blank hrest [c]

/-- It does not matter which end is trimmed first. -/
theorem trimStart_trimEnd (text : Text) : trimStart (trimEnd text) = trim text := by
  induction text with
  | nil => rfl
  | cons c rest ih =>
    cases hc : isBlank c with
    | false =>
      rw [trim, trimStart_cons_of_not_blank hc, trimEnd_cons_of_not_blank hc,
        trimStart_cons_of_not_blank hc]
    | true =>
      rw [trim, trimStart_cons_of_blank hc, ← trim, ← ih]
      cases hrest : isBlankText rest with
      | true =>
        have hall : isBlankText (c :: rest) = true := by
          rw [isBlankText, List.all_cons, hc]
          exact hrest
        rw [trimEnd_eq_nil_iff.2 hrest, trimEnd_eq_nil_iff.2 hall]
      | false =>
        have hlong : trimEnd (c :: rest) = c :: trimEnd rest :=
          trimEnd_append_of_not_blank hrest [c]
        rw [hlong, trimStart_cons_of_blank hc]

theorem trim_dropLineEnd (piece : Text) : trim (dropLineEnd piece) = trim piece := by
  rw [← trimStart_trimEnd, trimEnd_dropLineEnd, trimStart_trimEnd]

/-! ## Characters that are no blanks -/

/-- A text without its blanks. -/
def nonBlank (text : Text) : Text :=
  text.filter fun c => !isBlank c

theorem nonBlank_append (s t : Text) : nonBlank (s ++ t) = nonBlank s ++ nonBlank t :=
  List.filter_append s t

theorem nonBlank_flatten (texts : List Text) : nonBlank texts.flatten = texts.flatMap nonBlank := by
  rw [nonBlank, List.filter_flatten, List.flatMap_def]
  rfl

theorem nonBlank_eq_nil_iff {text : Text} : nonBlank text = [] ↔ isBlankText text = true := by
  simp [nonBlank, isBlankText]

theorem nonBlank_dropLineEnd (piece : Text) : nonBlank (dropLineEnd piece) = nonBlank piece := by
  obtain ⟨ending, hpiece, hending⟩ := exists_dropLineEnd piece
  calc nonBlank (dropLineEnd piece) = nonBlank (dropLineEnd piece ++ ending) := by
        rw [nonBlank_append, nonBlank_eq_nil_iff.2 hending, List.append_nil]
    _ = nonBlank piece := by rw [← hpiece]

theorem isBlankText_dropLineEnd (piece : Text) :
    isBlankText (dropLineEnd piece) = isBlankText piece := by
  rw [Bool.eq_iff_iff, ← nonBlank_eq_nil_iff, ← nonBlank_eq_nil_iff, nonBlank_dropLineEnd]

theorem isBlankText_flatten_eq_false_iff {texts : List Text} :
    isBlankText texts.flatten = false ↔ ∃ text ∈ texts, isBlankText text = false := by
  rw [isBlankText, List.all_flatten, List.all_eq_false]
  simp only [isBlankText, Bool.not_eq_true]

theorem flatMap_nonBlank_lines (text : Text) : (lines text).flatMap nonBlank = nonBlank text := by
  rw [lines, List.flatMap_map]
  simp only [nonBlank_dropLineEnd]
  rw [← nonBlank_flatten, flatten_pieces]

theorem nonBlank_intercalate {between : Text} (h : isBlankText between = true) (texts : List Text) :
    nonBlank (List.intercalate between texts) = texts.flatMap nonBlank := by
  induction texts with
  | nil => rfl
  | cons text more ih =>
    cases more with
    | nil =>
      rw [List.intercalate_singleton, List.flatMap_cons, List.flatMap_nil, List.append_nil]
    | cons next more =>
      rw [List.intercalate_cons_cons, nonBlank_append, nonBlank_append, nonBlank_eq_nil_iff.2 h,
        List.append_nil, ih]
      rfl

/-- Blank lines hold nothing but blanks. -/
theorem flatMap_nonBlank_dropWhile (texts : List Text) :
    (texts.dropWhile isBlankText).flatMap nonBlank = texts.flatMap nonBlank := by
  induction texts with
  | nil => rfl
  | cons text more ih =>
    rw [List.dropWhile_cons]
    split
    · next h => rw [ih, List.flatMap_cons, nonBlank_eq_nil_iff.2 h, List.nil_append]
    · rfl

theorem nonBlank_unifyLineEnds (text : Text) : nonBlank (unifyLineEnds text) = nonBlank text := by
  have hcons : ∀ (c : Char) (rest : Text), nonBlank (c :: rest) = nonBlank [c] ++ nonBlank rest :=
    fun c rest => nonBlank_append [c] rest
  induction text using unifyLineEnds.induct with
  | case1 rest ih => rw [unifyLineEnds, hcons, hcons '\r', hcons '\n', ih]; rfl
  | case2 c rest h ih =>
    rw [unifyLineEnds, hcons, hcons c rest, ih]
    exact h
  | case3 => rfl

end Text

namespace Body

open Text

/-- The lines that are kept, from the first to the last that is not blank. -/
theorem nonBlank_trimBlankLines (text : Text) : nonBlank (trimBlankLines text) = nonBlank text := by
  have hreverse : ∀ texts : List Text,
      (texts.reverse.dropWhile isBlankText).reverse.flatMap nonBlank = texts.flatMap nonBlank := by
    intro texts
    have hsplit := List.takeWhile_append_dropWhile (p := isBlankText) (l := texts.reverse)
    have htexts : texts = (texts.reverse.dropWhile isBlankText).reverse
        ++ (texts.reverse.takeWhile isBlankText).reverse := by
      rw [← List.reverse_append, hsplit, List.reverse_reverse]
    have hblank : (texts.reverse.takeWhile isBlankText).reverse.flatMap nonBlank = [] := by
      rw [List.flatMap_eq_nil_iff]
      intro line hline
      rw [List.mem_reverse] at hline
      exact nonBlank_eq_nil_iff.2 (List.mem_takeWhile_imp hline)
    calc (texts.reverse.dropWhile isBlankText).reverse.flatMap nonBlank
        = ((texts.reverse.dropWhile isBlankText).reverse
            ++ (texts.reverse.takeWhile isBlankText).reverse).flatMap nonBlank := by
          rw [List.flatMap_append, hblank, List.append_nil]
      _ = texts.flatMap nonBlank := by rw [← htexts]
  rw [trimBlankLines, nonBlank_intercalate (by decide), hreverse, flatMap_nonBlank_dropWhile,
    flatMap_nonBlank_lines]

/-- **A body holds the characters of its source in their order**, but for blanks. -/
theorem nonBlank_ofSource (source : Text) : nonBlank (ofSource source) = nonBlank source := by
  rw [ofSource, nonBlank_trimBlankLines, nonBlank_unifyLineEnds]

end Body
end DocViews
