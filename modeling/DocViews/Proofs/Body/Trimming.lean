import DocViews.Proofs.Text.Unified

/-!
# What is left of a text without its outer blank lines

Of the lines of a text a body keeps those from the first to the last that is not blank
(`keptLines`), and none if all are blank (`keptLines_eq_nil_iff`).  There is only one way to cut the
lines into blank ones, lines that begin and end with one that is not blank, and blank ones again
(`IsOuterCut.keptLines_eq`).

So a body that is not empty begins and ends with a line that is not blank (`isTrimmed_ofSource`),
and it is empty exactly when its source is blank (`ofSource_eq_nil_iff`).
-/

set_option autoImplicit false

namespace DocViews
namespace Body

open Text

/-- A text whose first and last lines are not blank. -/
def IsTrimmed (text : Text) : Prop :=
  ∀ line,
    (List.splitOn '\n' text).head? = some line ∨ (List.splitOn '\n' text).getLast? = some line →
    isBlankText line = false

/-- The lines that are kept of a text. -/
def keptLines (text : Text) : List Text :=
  ((text.lines.dropWhile isBlankText).reverse.dropWhile isBlankText).reverse

theorem trimBlankLines_eq (text : Text) :
    trimBlankLines text = List.intercalate ['\n'] (keptLines text) :=
  rfl

/-- Nothing but blank lines is dropped, and they are at both ends. -/
theorem exists_lines_eq (text : Text) :
    ∃ front back, text.lines = front ++ keptLines text ++ back ∧
      (∀ line ∈ front, isBlankText line = true) ∧ ∀ line ∈ back, isBlankText line = true := by
  have hback := List.takeWhile_append_dropWhile (p := isBlankText)
    (l := (text.lines.dropWhile isBlankText).reverse)
  refine ⟨text.lines.takeWhile isBlankText,
    ((text.lines.dropWhile isBlankText).reverse.takeWhile isBlankText).reverse, ?_,
    fun line hline => List.mem_takeWhile_imp hline,
    fun line hline => List.mem_takeWhile_imp (List.mem_reverse.1 hline)⟩
  rw [List.append_assoc, keptLines, ← List.reverse_append, hback, List.reverse_reverse,
    List.takeWhile_append_dropWhile]

theorem newline_notMem_of_mem_keptLines {text line : Text} (h : line ∈ keptLines text) :
    '\n' ∉ line := by
  obtain ⟨front, back, heq, -, -⟩ := exists_lines_eq text
  have hmem : line ∈ text.lines := by
    rw [heq]
    exact List.mem_append_left back (List.mem_append_right front h)
  exact newline_notMem_of_mem_lines hmem

theorem getLast?_keptLines {text line : Text} (h : (keptLines text).getLast? = some line) :
    isBlankText line = false := by
  rw [keptLines, List.getLast?_reverse] at h
  have hhead := List.head?_dropWhile_not isBlankText (text.lines.dropWhile isBlankText).reverse
  rw [h] at hhead
  exact hhead

theorem head?_keptLines {text line : Text} (h : (keptLines text).head? = some line) :
    isBlankText line = false := by
  have hhead := List.head?_dropWhile_not isBlankText text.lines
  -- the lines that are kept are the first ones behind the blank lines at the top
  obtain ⟨back, hback⟩ : keptLines text <+: text.lines.dropWhile isBlankText := by
    rw [keptLines, ← List.reverse_suffix, List.reverse_reverse]
    exact List.dropWhile_suffix isBlankText
  cases hkept : keptLines text with
  | nil => rw [hkept] at h; exact absurd h (by simp)
  | cons first rest =>
    rw [hkept] at h hback
    rw [← hback] at hhead
    rw [← Option.some.inj h]
    exact hhead

/-- No line is kept exactly when all are blank. -/
theorem keptLines_eq_nil_iff {text : Text} :
    keptLines text = [] ↔ ∀ line ∈ text.lines, isBlankText line = true := by
  obtain ⟨front, back, hlines, hfront, hback⟩ := exists_lines_eq text
  constructor
  · intro hnil line hline
    rw [hlines, hnil, List.append_nil, List.mem_append] at hline
    exact hline.elim (hfront line) (hback line)
  · intro hall
    by_contra hne
    obtain ⟨first, rest, hkept⟩ := List.exists_cons_of_ne_nil hne
    have hblank : isBlankText first = false := head?_keptLines (by rw [hkept]; rfl)
    rw [hall first (by rw [hlines, hkept]; simp)] at hblank
    exact absurd hblank (by decide)

theorem splitOn_trimBlankLines {text : Text} (h : keptLines text ≠ []) :
    List.splitOn '\n' (trimBlankLines text) = keptLines text := by
  rw [trimBlankLines_eq,
    List.splitOn_intercalate '\n' (fun _ => newline_notMem_of_mem_keptLines) h]

theorem trimBlankLines_eq_nil_iff {text : Text} :
    trimBlankLines text = [] ↔ keptLines text = [] := by
  constructor
  · intro hnil
    by_contra hne
    -- an empty text has one line, and that line is blank
    have hfirst : (keptLines text).head? = some [] := by
      rw [← splitOn_trimBlankLines hne, hnil]
      rfl
    have hblank : isBlankText [] = false := head?_keptLines hfirst
    exact absurd hblank (by decide)
  · intro hnil
    rw [trimBlankLines_eq, hnil]
    rfl

theorem isTrimmed_trimBlankLines {text : Text} (h : trimBlankLines text ≠ []) :
    IsTrimmed (trimBlankLines text) := by
  intro line hline
  rw [splitOn_trimBlankLines (mt trimBlankLines_eq_nil_iff.2 h)] at hline
  exact hline.elim head?_keptLines getLast?_keptLines

/-- Behind a line feed there would be one more line, a blank one. -/
theorem IsTrimmed.getLast?_ne {text : Text} (h : IsTrimmed text) : text.getLast? ≠ some '\n' := by
  intro hlast
  obtain ⟨front, rfl⟩ := List.getLast?_eq_some_iff.1 hlast
  have hempty : (List.splitOn '\n' (front ++ ['\n'])).getLast? = some [] := by
    rw [List.splitOn_append_cons_self, List.splitOn_nil, List.getLast?_concat]
  exact absurd (h [] (Or.inr hempty)) (by decide)

theorem IsTrimmed.not_blank {text : Text} (h : IsTrimmed text) : isBlankText text = false := by
  obtain ⟨line, more, hsplit⟩ := List.exists_cons_of_ne_nil (List.splitOn_ne_nil '\n' text)
  have hline : isBlankText line = false := h line (Or.inl (by rw [hsplit]; rfl))
  by_contra hblank
  rw [Bool.not_eq_false, isBlankText, List.all_eq_true] at hblank
  have hall : isBlankText line = true := by
    rw [isBlankText, List.all_eq_true]
    intro c hc
    exact hblank c ((infix_of_mem_splitOn (hsplit ▸ List.mem_cons_self)).subset hc)
  rw [hline] at hall
  exact absurd hall (by decide)

/-! ## Blank lines around other lines -/

/-- Lines as blank ones, lines to keep, and blank ones again, where the first and the last of the
lines to keep are not blank. -/
structure IsOuterCut (lines front kept back : List Text) : Prop where
  append : lines = front ++ kept ++ back
  front : ∀ line ∈ front, isBlankText line = true
  back : ∀ line ∈ back, isBlankText line = true
  first : ∃ line, kept.head? = some line ∧ isBlankText line = false
  last : ∃ line, kept.getLast? = some line ∧ isBlankText line = false

/-- All lines in front of the first one that is not blank are dropped. -/
theorem dropWhile_isBlankText_append {front kept : List Text}
    (hfront : ∀ line ∈ front, isBlankText line = true)
    (hfirst : ∃ line, kept.head? = some line ∧ isBlankText line = false) :
    (front ++ kept).dropWhile isBlankText = kept := by
  obtain ⟨line, hhead, hblank⟩ := hfirst
  obtain ⟨rest, rfl⟩ := List.head?_eq_some_iff.1 hhead
  rw [List.dropWhile_append_of_pos hfront, List.dropWhile_cons_of_neg (by rw [hblank]; decide)]

/-- **Only one way to cut the lines leaves blank ones outside**, and it is the one that is made. -/
theorem IsOuterCut.keptLines_eq {text : Text} {front kept back : List Text}
    (h : IsOuterCut text.lines front kept back) : keptLines text = kept := by
  have hfirst : ∃ line, (kept ++ back).head? = some line ∧ isBlankText line = false := by
    obtain ⟨line, hhead, hblank⟩ := h.first
    exact ⟨line, by rw [List.head?_append, hhead]; rfl, hblank⟩
  have hlast : ∃ line, kept.reverse.head? = some line ∧ isBlankText line = false := by
    rw [List.head?_reverse]
    exact h.last
  have hback : ∀ line ∈ back.reverse, isBlankText line = true := fun line hline =>
    h.back line (List.mem_reverse.1 hline)
  rw [keptLines, h.append, List.append_assoc, dropWhile_isBlankText_append h.front hfirst,
    List.reverse_append, dropWhile_isBlankText_append hback hlast, List.reverse_reverse]

theorem exists_isOuterCut {text : Text} (h : keptLines text ≠ []) :
    ∃ front back, IsOuterCut text.lines front (keptLines text) back := by
  obtain ⟨front, back, hlines, hfront, hback⟩ := exists_lines_eq text
  have hfirst := List.head?_eq_some_head h
  have hlast := List.getLast?_eq_some_getLast h
  exact ⟨front, back, hlines, hfront, hback, ⟨_, hfirst, head?_keptLines hfirst⟩,
    ⟨_, hlast, getLast?_keptLines hlast⟩⟩

/-- **Exactly the blank lines at the two ends are taken out.**  The lines of a text are its cuts at
line feeds, each without one carriage return in front of its line feed, and without an empty one at
the end.  Nothing is left exactly when all of them are blank.  Else the lines between blank ones at
the top and at the bottom are left as they are, and only these lines can be cut out in this way.
What is left does not end in a line feed. -/
theorem trimBlankLines_exact (text : Text) :
    (∃ ended last, List.splitOn '\n' text = ended ++ [last] ∧
      text.lines = ended.map dropReturn ++ if last = [] then [] else [last]) ∧
    (trimBlankLines text = [] ↔ ∀ line ∈ text.lines, isBlankText line = true) ∧
    ((∃ line ∈ text.lines, isBlankText line = false) →
      ∃ front kept back, IsOuterCut text.lines front kept back ∧
        List.splitOn '\n' (trimBlankLines text) = kept) ∧
    (∀ front kept back, IsOuterCut text.lines front kept back →
      List.splitOn '\n' (trimBlankLines text) = kept) ∧
    (trimBlankLines text).getLast? ≠ some '\n' := by
  refine ⟨exists_lines_eq_splitOn text, trimBlankLines_eq_nil_iff.trans keptLines_eq_nil_iff,
    ?found, ?unique, ?last⟩
  case found =>
    rintro ⟨line, hline, hblank⟩
    have hne : keptLines text ≠ [] := by
      intro hnil
      rw [keptLines_eq_nil_iff.1 hnil line hline] at hblank
      exact absurd hblank (by decide)
    obtain ⟨front, back, hcut⟩ := exists_isOuterCut hne
    exact ⟨front, keptLines text, back, hcut, splitOn_trimBlankLines hne⟩
  case unique =>
    rintro front kept back hcut
    have hne : keptLines text ≠ [] := by
      obtain ⟨line, hhead, -⟩ := hcut.first
      rw [hcut.keptLines_eq]
      rintro rfl
      exact absurd hhead (by simp)
    rw [splitOn_trimBlankLines hne, hcut.keptLines_eq]
  case last =>
    by_cases hnil : trimBlankLines text = []
    · rw [hnil]
      exact fun hlast => absurd hlast (by simp)
    · exact (isTrimmed_trimBlankLines hnil).getLast?_ne

/-- An indented line that ends in two carriage returns, an ideographic space and an empty line
between it and the last one, and blank lines of a space and of a tab around them. -/
theorem trimBlankLines_exact_indented :
    (∃ line ∈ lines " \n  a\r\r\n\u3000\r\n\nb\n\t\r".toList, isBlankText line = false) ∧
    (∃ front back, IsOuterCut (lines " \n  a\r\r\n\u3000\r\n\nb\n\t\r".toList)
      front ["  a\r".toList, ['\u3000'], [], ['b']] back) ∧
    List.splitOn '\n' (trimBlankLines " \n  a\r\r\n\u3000\r\n\nb\n\t\r".toList)
      = ["  a\r".toList, ['\u3000'], [], ['b']] := by
  have hline : ∃ line ∈ lines " \n  a\r\r\n\u3000\r\n\nb\n\t\r".toList,
      isBlankText line = false := ⟨['b'], by decide +kernel, by decide +kernel⟩
  obtain ⟨front, kept, back, hcut, hkept⟩ := (trimBlankLines_exact _).2.2.1 hline
  have hsplit : kept = ["  a\r".toList, ['\u3000'], [], ['b']] := by
    rw [← hkept]
    decide +kernel
  rw [hsplit] at hcut hkept
  exact ⟨hline, ⟨front, back, hcut⟩, hkept⟩

/-- **A body is empty or begins and ends with a line that is not blank.** -/
theorem isTrimmed_ofSource {source : Text} (h : ofSource source ≠ []) :
    IsTrimmed (ofSource source) :=
  isTrimmed_trimBlankLines h

/-- **A body is empty exactly when its source is blank.** -/
theorem ofSource_eq_nil_iff {source : Text} :
    ofSource source = [] ↔ isBlankText source = true := by
  rw [← nonBlank_eq_nil_iff, ← nonBlank_ofSource]
  constructor
  · intro h
    rw [h]
    rfl
  · intro h
    by_contra hne
    rw [nonBlank_eq_nil_iff, (isTrimmed_ofSource hne).not_blank] at h
    exact absurd h (by decide)

end Body
end DocViews
