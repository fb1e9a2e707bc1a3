import DocViews.Proofs.Text.Lines

/-!
# The two ways to end a line

`Text.withReturns` is a text with a carriage return before every line feed.  It has the same pieces
up to their ends (`pieces_withReturns`), and if there was no carriage return before, the same lines
(`lines_withReturns`); unifying the line ends gives the text back (`unifyLineEnds_withReturns`).
-/

set_option autoImplicit false

namespace DocViews
namespace Text

/-- The text with a carriage return before every line feed. -/
def withReturns (text : Text) : Text :=
  text.flatMap fun c => if c = '\n' then ['\r', '\n'] else [c]

theorem withReturns_append (s t : Text) :
    withReturns (s ++ t) = withReturns s ++ withReturns t :=
  List.flatMap_append

theorem withReturns_newline_cons (rest : Text) :
    withReturns ('\n' :: rest) = '\r' :: '\n' :: withReturns rest :=
  rfl

theorem withReturns_cons_of_ne {c : Char} (h : c ≠ '\n') (rest : Text) :
    withReturns (c :: rest) = c :: withReturns rest := by
  rw [withReturns, List.flatMap_cons, if_neg h, List.singleton_append, withReturns]

theorem withReturns_of_notMem {text : Text} (h : '\n' ∉ text) : withReturns text = text := by
  induction text with
  | nil => rfl
  | cons c rest ih =>
    rw [List.mem_cons, not_or] at h
    rw [withReturns_cons_of_ne (Ne.symm h.1), ih h.2]

theorem withReturns_flatten (texts : List Text) :
    withReturns texts.flatten = (texts.map withReturns).flatten := by
  induction texts with
  | nil => rfl
  | cons text more ih => rw [List.flatten_cons, withReturns_append, ih, List.map_cons,
      List.flatten_cons]

/-! ## Beginnings

A test that tells the two characters of a line end apart from all others gives the same answers. -/

theorem take_withReturns {n : Nat} {text : Text} (h : '\n' ∉ text.take n) :
    (withReturns text).take n = text.take n := by
  induction n generalizing text with
  | zero => rfl
  | succ n ih =>
    cases text with
    | nil => rfl
    | cons c rest =>
      rw [List.take_succ_cons, List.mem_cons, not_or] at h
      rw [withReturns_cons_of_ne (Ne.symm h.1), List.take_succ_cons, List.take_succ_cons, ih h.2]

theorem drop_withReturns {n : Nat} {text : Text} (h : '\n' ∉ text.take n) :
    (withReturns text).drop n = withReturns (text.drop n) := by
  induction n generalizing text with
  | zero => rfl
  | succ n ih =>
    cases text with
    | nil => rfl
    | cons c rest =>
      rw [List.take_succ_cons, List.mem_cons, not_or] at h
      rw [withReturns_cons_of_ne (Ne.symm h.1), List.drop_succ_cons, List.drop_succ_cons, ih h.2]

theorem isPrefixOf_withReturns {start : Text} (hnewline : '\n' ∉ start) (hreturn : '\r' ∉ start)
    (text : Text) : start.isPrefixOf (withReturns text) = start.isPrefixOf text := by
  induction start generalizing text with
  | nil => simp
  | cons s more ih =>
    rw [List.mem_cons, not_or] at hnewline hreturn
    cases text with
    | nil => rfl
    | cons c rest =>
      by_cases hc : c = '\n'
      · subst hc
        have hs : (s == '\r') = false := beq_false_of_ne (Ne.symm hreturn.1)
        have hs' : (s == '\n') = false := beq_false_of_ne (Ne.symm hnewline.1)
        rw [withReturns_newline_cons, List.isPrefixOf_cons_cons, List.isPrefixOf_cons_cons, hs, hs',
          Bool.false_and, Bool.false_and]
      · rw [withReturns_cons_of_ne hc, List.isPrefixOf_cons_cons, List.isPrefixOf_cons_cons,
          ih hnewline.2 hreturn.2]

section Tests

variable {test : Char → Bool}

theorem all_withReturns (hreturn : test '\r' = true) (text : Text) :
    (withReturns text).all test = text.all test := by
  induction text with
  | nil => rfl
  | cons c rest ih =>
    by_cases hc : c = '\n'
    · subst hc
      rw [withReturns_newline_cons, List.all_cons, List.all_cons, List.all_cons, ih, hreturn,
        Bool.true_and]
    · rw [withReturns_cons_of_ne hc, List.all_cons, List.all_cons, ih]

theorem takeWhile_withReturns (hnewline : test '\n' = false) (hreturn : test '\r' = false)
    (text : Text) : (withReturns text).takeWhile test = text.takeWhile test := by
  induction text with
  | nil => rfl
  | cons c rest ih =>
    by_cases hc : c = '\n'
    · subst hc
      rw [withReturns_newline_cons, List.takeWhile_cons_of_neg (by simp [hreturn]),
        List.takeWhile_cons_of_neg (by simp [hnewline])]
    · rw [withReturns_cons_of_ne hc, List.takeWhile_cons, List.takeWhile_cons, ih]

theorem dropWhile_withReturns (hnewline : test '\n' = false) (hreturn : test '\r' = false)
    (text : Text) : (withReturns text).dropWhile test = withReturns (text.dropWhile test) := by
  induction text with
  | nil => rfl
  | cons c rest ih =>
    by_cases hc : c = '\n'
    · subst hc
      rw [withReturns_newline_cons, List.dropWhile_cons_of_neg (by simp [hreturn]),
        List.dropWhile_cons_of_neg (by simp [hnewline]), withReturns_newline_cons]
    · rw [withReturns_cons_of_ne hc, List.dropWhile_cons, List.dropWhile_cons, ih]
      split
      · rfl
      · rw [withReturns_cons_of_ne hc]

end Tests

/-! ## Pieces and lines -/

/-- A line feed gets its carriage return from the line in front of it. -/
theorem withReturns_line_append {line : Text} (h : '\n' ∉ line) (rest : Text) :
    withReturns (line ++ '\n' :: rest) = (line ++ ['\r']) ++ '\n' :: withReturns rest := by
  rw [withReturns_append, withReturns_of_notMem h, withReturns_newline_cons, List.append_assoc,
    List.singleton_append]

theorem newline_notMem_append_return {line : Text} (h : '\n' ∉ line) : '\n' ∉ line ++ ['\r'] := by
  rw [List.mem_append, not_or]
  exact ⟨h, by decide⟩

theorem pieces_withReturns (text : Text) :
    pieces (withReturns text) = (pieces text).map withReturns := by
  induction text using induction_on_lines with
  | last line h =>
    rw [withReturns_of_notMem h]
    by_cases hne : line = []
    · rw [hne]
      rfl
    · rw [pieces_of_notMem hne h, List.map_singleton, withReturns_of_notMem h]
  | more line rest h ih =>
    rw [withReturns_line_append h, pieces_append_newline (newline_notMem_append_return h), ih,
      pieces_append_newline h, List.map_cons, withReturns_append, withReturns_of_notMem h,
      List.append_assoc]
    rfl

theorem lines_withReturns {text : Text} (h : '\r' ∉ text) :
    lines (withReturns text) = lines text := by
  induction text using induction_on_lines with
  | last line hline => rw [withReturns_of_notMem hline]
  | more line rest hline ih =>
    rw [List.mem_append, List.mem_cons, not_or, not_or] at h
    obtain ⟨hreturn, -, hrest⟩ := h
    rw [withReturns_line_append hline, lines_append_newline (newline_notMem_append_return hline),
      lines_append_newline hline, ih hrest, dropLineEnd_append_newline hreturn, List.append_assoc]
    exact congrArg (· :: lines rest) (dropLineEnd_append_return_newline line)

/-- The end of a piece is blank either way. -/
theorem trimEnd_withReturns_of_mem_pieces {text piece : Text} (h : piece ∈ pieces text) :
    trimEnd (withReturns piece) = trimEnd piece := by
  obtain ⟨line, hline, rfl | rfl⟩ := cases_of_mem_pieces h
  · rw [withReturns_of_notMem hline]
  · rw [withReturns_append, withReturns_of_notMem hline, trimEnd_append (by decide),
      trimEnd_append (by decide)]

/-! ## Unifying line ends -/

theorem unifyLineEnds_cons_of_ne {c : Char} (h : c ≠ '\r') (rest : Text) :
    unifyLineEnds (c :: rest) = c :: unifyLineEnds rest := by
  rw [unifyLineEnds]
  exact fun _ hc _ => h hc

theorem unifyLineEnds_of_notMem {text : Text} (h : '\r' ∉ text) : unifyLineEnds text = text := by
  induction text with
  | nil => rfl
  | cons c rest ih =>
    rw [List.mem_cons, not_or] at h
    rw [unifyLineEnds_cons_of_ne (Ne.symm h.1), ih h.2]

theorem unifyLineEnds_withReturns {text : Text} (h : '\r' ∉ text) :
    unifyLineEnds (withReturns text) = text := by
  induction text with
  | nil => rfl
  | cons c rest ih =>
    rw [List.mem_cons, not_or] at h
    by_cases hc : c = '\n'
    · subst hc
      rw [withReturns_newline_cons, unifyLineEnds, ih h.2]
    · rw [withReturns_cons_of_ne hc, unifyLineEnds_cons_of_ne (Ne.symm h.1), ih h.2]

end Text
end DocViews
