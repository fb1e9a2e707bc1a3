import DocViews.Proofs.Text.LineEnds
import DocViews.Proofs.Text.Split

/-!
# Texts without carriage returns in front of line feeds

A text is *unified* if no line feed stands behind a carriage return.  `Text.unifyLineEnds` leaves
exactly these texts alone (`unifyLineEnds_eq_self_iff`), and of the others it leaves out characters
(`unifyLineEnds_sublist`), but one carriage return at each line feed only.  Cutting a text into lines
takes another one, so a line shows a carriage return at its end if there were three
(`shownOf_eq_concat_iff`).  The lines of any text are its cuts at line feeds without these carriage
returns (`exists_lines_eq_splitOn`).
-/

set_option autoImplicit false

namespace DocViews
namespace Text

/-! ## Unified texts -/

/-- A text in which no line feed stands behind a carriage return. -/
def IsUnified (text : Text) : Prop :=
  ¬ ['\r', '\n'] <:+: text

instance (text : Text) : Decidable (IsUnified text) :=
  inferInstanceAs (Decidable (¬ ['\r', '\n'] <:+: text))

theorem isUnified_cons_iff {c : Char} {rest : Text} :
    IsUnified (c :: rest) ↔ ¬ (c = '\r' ∧ rest.head? = some '\n') ∧ IsUnified rest := by
  rw [IsUnified, IsUnified, List.infix_cons_iff, not_or, List.cons_prefix_cons]
  cases rest with
  | nil => simp
  | cons d more => simp [eq_comm]

theorem isUnified_of_notMem {line : Text} (h : '\n' ∉ line) : IsUnified line :=
  fun hpair => h (hpair.subset (by decide))

/-- A line keeps a text from being unified only by a carriage return at its end. -/
theorem isUnified_append_newline_iff {line : Text} (h : '\n' ∉ line) (rest : Text) :
    IsUnified (line ++ '\n' :: rest) ↔ line.getLast? ≠ some '\r' ∧ IsUnified rest := by
  induction line with
  | nil => rw [List.nil_append, isUnified_cons_iff]; simp
  | cons c more ih =>
    rw [List.mem_cons, not_or] at h
    rw [List.cons_append, isUnified_cons_iff, ih h.2]
    cases more with
    | nil => simp
    | cons d more =>
      have hd : d ≠ '\n' := fun hd => h.2 (hd ▸ List.mem_cons_self)
      simp [hd, List.getLast?_cons_cons]

/-- Lines make a unified text if none but the last ends in a carriage return. -/
theorem isUnified_intercalate_iff {lines : List Text} (h : ∀ line ∈ lines, '\n' ∉ line) :
    IsUnified (List.intercalate ['\n'] lines) ↔
      ∀ front line back, lines = front ++ line :: back → back ≠ [] →
        line.getLast? ≠ some '\r' := by
  induction lines with
  | nil => exact iff_of_true (by decide) fun front line back hnil => absurd hnil (by simp)
  | cons first more ih =>
    obtain ⟨hfirst, hmore⟩ := List.forall_mem_cons.1 h
    cases more with
    | nil =>
      rw [List.intercalate_singleton]
      refine iff_of_true (isUnified_of_notMem hfirst) fun front line back heq hback => ?_
      have hlength := congrArg List.length heq
      have hpos := List.length_pos_iff.2 hback
      simp only [List.length_append, List.length_cons, List.length_nil] at hlength
      omega
    | cons next more =>
      rw [List.intercalate_cons_cons, List.append_assoc, List.singleton_append,
        isUnified_append_newline_iff hfirst, ih hmore]
      constructor
      · rintro ⟨hend, hrest⟩ front line back heq hback
        cases front with
        | nil => exact (List.cons.inj heq).1 ▸ hend
        | cons skipped front => exact hrest front line back (List.cons.inj heq).2 hback
      · intro hall
        exact ⟨hall [] first (next :: more) rfl (by simp), fun front line back heq =>
          hall (first :: front) line back (by rw [heq]; rfl)⟩

/-! ## Taking out carriage returns -/

theorem unifyLineEnds_eq_self_iff {text : Text} : unifyLineEnds text = text ↔ IsUnified text := by
  induction text using unifyLineEnds.induct with
  | case1 rest _ =>
    rw [unifyLineEnds]
    exact iff_of_false (fun h => absurd (List.cons.inj h).1 (by decide))
      (fun h => h ⟨[], rest, rfl⟩)
  | case2 c rest hpair ih =>
    have hfirst : ¬ (c = '\r' ∧ rest.head? = some '\n') := by
      rintro ⟨rfl, hhead⟩
      obtain ⟨more, rfl⟩ := List.head?_eq_some_iff.1 hhead
      exact hpair more rfl rfl
    rw [unifyLineEnds, List.cons_inj_right, ih, isUnified_cons_iff]
    · exact (and_iff_right hfirst).symm
    · exact hpair
  | case3 => exact iff_of_true rfl (by decide)

theorem unifyLineEnds_sublist (text : Text) : (unifyLineEnds text).Sublist text := by
  induction text using unifyLineEnds.induct with
  | case1 rest ih =>
    rw [unifyLineEnds]
    exact (ih.cons_cons '\n').cons '\r'
  | case2 c rest hpair ih =>
    rw [unifyLineEnds]
    · exact ih.cons_cons c
    · exact hpair
  | case3 => exact List.Sublist.refl _

theorem unifyLineEnds_cons {c : Char} {rest : Text} (h : ¬ (c = '\r' ∧ rest.head? = some '\n')) :
    unifyLineEnds (c :: rest) = c :: unifyLineEnds rest := by
  rw [unifyLineEnds]
  rintro more rfl rfl
  exact h ⟨rfl, rfl⟩

/-- What stands in front of a line end stays as it is. -/
theorem unifyLineEnds_append {line rest : Text} (hline : '\n' ∉ line)
    (hcut : line.getLast? ≠ some '\r' ∨ rest.head? ≠ some '\n') :
    unifyLineEnds (line ++ rest) = line ++ unifyLineEnds rest := by
  induction line with
  | nil => rfl
  | cons c more ih =>
    rw [List.mem_cons, not_or] at hline
    cases more with
    | nil =>
      rw [List.singleton_append, List.singleton_append, unifyLineEnds_cons]
      rintro ⟨rfl, hhead⟩
      exact hcut.elim (fun h => h rfl) fun h => h hhead
    | cons d more =>
      have hd : d ≠ '\n' := fun hd => hline.2 (hd ▸ List.mem_cons_self)
      rw [List.getLast?_cons_cons] at hcut
      rw [List.cons_append, unifyLineEnds_cons (by simp [hd]), ih hline.2 hcut]
      rfl

/-- A line feed takes one carriage return with it. -/
theorem unifyLineEnds_append_newline {line : Text} (h : '\n' ∉ line) (rest : Text) :
    unifyLineEnds (line ++ '\n' :: rest)
      = dropLineEnd (line ++ ['\n']) ++ '\n' :: unifyLineEnds rest := by
  have hnewline : unifyLineEnds ('\n' :: rest) = '\n' :: unifyLineEnds rest :=
    unifyLineEnds_cons_of_ne (by decide) rest
  by_cases hend : line.getLast? = some '\r'
  · obtain ⟨front, rfl⟩ := List.getLast?_eq_some_iff.1 hend
    have hfront : '\n' ∉ front := fun hmem => h (List.mem_append_left _ hmem)
    rw [List.append_assoc, List.singleton_append, unifyLineEnds_append hfront (Or.inr (by simp)),
      List.append_assoc, List.singleton_append, dropLineEnd_append_return_newline, unifyLineEnds]
  · rw [unifyLineEnds_append h (Or.inl hend), hnewline, dropLineEnd_newline hend]

/-- Only two carriage returns are taken from the end of a line. -/
theorem dropLineEnd_newline_eq_concat_iff {line front : Text} :
    dropLineEnd (line ++ ['\n']) = front ++ ['\r'] ↔ line = front ++ ['\r', '\r'] := by
  by_cases hend : line.getLast? = some '\r'
  · obtain ⟨before, rfl⟩ := List.getLast?_eq_some_iff.1 hend
    rw [List.append_assoc, List.singleton_append, dropLineEnd_append_return_newline,
      List.append_cons front '\r' ['\r'], List.append_cancel_right_eq]
  · rw [dropLineEnd_newline hend]
    refine iff_of_false ?_ ?_ <;> rintro rfl <;> exact hend (by simp)

/-- What is shown of a piece when its line end has been unified and dropped. -/
def shownOf (piece : Text) : Text :=
  dropLineEnd (unifyLineEnds piece)

/-- **Each line of a unified text is what is shown of a piece of the text.** -/
theorem lines_unifyLineEnds (text : Text) :
    lines (unifyLineEnds text) = (pieces text).map shownOf := by
  induction text using induction_on_lines with
  | last line hline =>
    rw [unifyLineEnds_eq_self_iff.2 (isUnified_of_notMem hline)]
    by_cases hne : line = []
    · rw [hne]
      rfl
    · rw [lines, pieces_of_notMem hne hline, List.map_singleton, List.map_singleton, shownOf,
        unifyLineEnds_eq_self_iff.2 (isUnified_of_notMem hline)]
  | more line rest hline ih =>
    have hdropped : '\n' ∉ dropLineEnd (line ++ ['\n']) :=
      fun hmem => hline ((dropLineEnd_isPrefix line).subset hmem)
    have hpiece : unifyLineEnds (line ++ ['\n']) = dropLineEnd (line ++ ['\n']) ++ ['\n'] :=
      unifyLineEnds_append_newline hline []
    rw [unifyLineEnds_append_newline hline, lines_append_newline hdropped, ih,
      pieces_append_newline hline, List.map_cons, shownOf, hpiece]

theorem isBlankText_shownOf (piece : Text) : isBlankText (shownOf piece) = isBlankText piece := by
  rw [shownOf, isBlankText_dropLineEnd, Bool.eq_iff_iff, ← nonBlank_eq_nil_iff,
    ← nonBlank_eq_nil_iff, nonBlank_unifyLineEnds]

/-- A piece shows a carriage return at its end if it has three in front of its line feed. -/
theorem shownOf_eq_concat_iff {line front : Text} (h : '\n' ∉ line) :
    shownOf (line ++ ['\n']) = front ++ ['\r'] ↔ line = front ++ ['\r', '\r', '\r'] := by
  have hpiece : unifyLineEnds (line ++ ['\n']) = dropLineEnd (line ++ ['\n']) ++ ['\n'] :=
    unifyLineEnds_append_newline h []
  rw [shownOf, hpiece, dropLineEnd_newline_eq_concat_iff, List.append_cons front '\r' ['\r'],
    dropLineEnd_newline_eq_concat_iff, List.append_assoc]
  rfl

/-! ## Lines and cuts at line feeds -/

/-- A line without the carriage return at its end. -/
def dropReturn (line : Text) : Text :=
  if line.getLast? = some '\r' then line.dropLast else line

theorem dropLineEnd_newline_eq_dropReturn (line : Text) :
    dropLineEnd (line ++ ['\n']) = dropReturn line := by
  by_cases hend : line.getLast? = some '\r'
  · rw [dropReturn, if_pos hend]
    obtain ⟨front, rfl⟩ := List.getLast?_eq_some_iff.1 hend
    rw [List.append_assoc, List.singleton_append, dropLineEnd_append_return_newline,
      List.dropLast_concat]
  · rw [dropLineEnd_newline hend, dropReturn, if_neg hend]

/-- **The lines of a text are its cuts at line feeds**: each without a carriage return in front of
its line feed, and the one behind the last line feed as it is, if there is anything of it. -/
theorem exists_lines_eq_splitOn (text : Text) :
    ∃ ended last, List.splitOn '\n' text = ended ++ [last] ∧
      text.lines = ended.map dropReturn ++ if last = [] then [] else [last] := by
  induction text using induction_on_lines with
  | last line hline =>
    refine ⟨[], line, List.splitOn_eq_singleton hline, ?_⟩
    by_cases hne : line = []
    · rw [hne]
      rfl
    · rw [lines, pieces_of_notMem hne hline, if_neg hne, List.map_singleton,
        dropLineEnd_of_notMem hline]
      rfl
  | more line rest hline ih =>
    obtain ⟨ended, last, hsplit, hlines⟩ := ih
    refine ⟨line :: ended, last, ?_, ?_⟩
    · rw [List.splitOn_append_cons_self_of_not_mem hline, hsplit, List.cons_append]
    · rw [lines_append_newline hline, hlines, dropLineEnd_newline_eq_dropReturn, List.map_cons,
        List.cons_append]

/-- The lines of a unified text are cut at its line feeds, if there is something behind the last. -/
theorem lines_eq_splitOn {text : Text} (h : IsUnified text)
    (hlast : (List.splitOn '\n' text).getLast? ≠ some []) :
    text.lines = List.splitOn '\n' text := by
  obtain ⟨ended, last, hsplit, hlines⟩ := exists_lines_eq_splitOn text
  have hne : last ≠ [] := by
    rintro rfl
    exact hlast (by rw [hsplit, List.getLast?_concat])
  have hjoin : List.intercalate ['\n'] (List.splitOn '\n' text) = text :=
    List.intercalate_splitOn '\n'
  rw [← hjoin, isUnified_intercalate_iff fun _ => notMem_of_mem_splitOn] at h
  have hends : ended.map dropReturn = ended := by
    refine (List.map_congr_left fun line hline => ?_).trans ended.map_id
    obtain ⟨front, back, rfl⟩ := List.append_of_mem hline
    exact if_neg (h front line (back ++ [last]) (by rw [hsplit]; simp) (by simp))
  rw [hlines, hends, if_neg hne, hsplit]

/-- The join of its lines leaves out line ends of a text. -/
theorem intercalate_lines_sublist (text : Text) :
    (List.intercalate ['\n'] text.lines).Sublist text := by
  induction text using induction_on_lines with
  | last line hline =>
    by_cases hne : line = []
    · rw [hne]
      exact List.Sublist.refl _
    · rw [lines, pieces_of_notMem hne hline, List.map_singleton, dropLineEnd_of_notMem hline,
        List.intercalate_singleton]
  | more line rest hline ih =>
    have hdropped : (dropLineEnd (line ++ ['\n'])).Sublist line := (dropLineEnd_isPrefix line).sublist
    rw [lines_append_newline hline]
    cases hrest : lines rest with
    | nil =>
      rw [List.intercalate_singleton]
      exact hdropped.trans (List.sublist_append_left _ _)
    | cons next more =>
      rw [hrest] at ih
      rw [List.intercalate_cons_cons, List.append_assoc, List.singleton_append]
      exact hdropped.append (ih.cons_cons '\n')

end Text
end DocViews
