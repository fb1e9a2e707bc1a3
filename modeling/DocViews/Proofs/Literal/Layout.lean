import DocViews.Proofs.Literal.RoundTrip

/-!
# The lines of a literal

An escaped literal stands on one line, whatever the text; its characters are neither control
characters nor line breaks.  A raw literal ends its lines with line feeds, so a compiler cuts it
where a reader of plain text does.
-/

set_option autoImplicit false

namespace DocViews
namespace Literal

/-! ## Texts with line feeds -/

/-- A text with no line break but the line feed. -/
def OnlyNewlines (text : Text) : Prop :=
  ∀ c ∈ text, isLineBreak c = true → c = '\n'

instance (text : Text) : Decidable (OnlyNewlines text) :=
  List.decidableBAll (fun c => isLineBreak c = true → c = '\n') text

theorem OnOneLine.onlyNewlines {text : Text} (h : OnOneLine text) : OnlyNewlines text := by
  intro c hc hl
  rw [h c hc] at hl
  exact absurd hl (by decide)

theorem OnlyNewlines.append {before after : Text} (hb : OnlyNewlines before)
    (ha : OnlyNewlines after) : OnlyNewlines (before ++ after) :=
  fun c hc => (List.mem_append.1 hc).elim (hb c) (ha c)

theorem OnlyNewlines.cons_newline {text : Text} (h : OnlyNewlines text) :
    OnlyNewlines ('\n' :: text) :=
  List.forall_mem_cons.2 ⟨fun _ => rfl, h⟩

theorem codeLines_eq_splitOn {text : Text} (h : OnlyNewlines text) :
    codeLines text = List.splitOn '\n' text := by
  induction text with
  | nil => rfl
  | cons c rest ih =>
    have hrest : OnlyNewlines rest := (List.forall_mem_cons.1 h).2
    cases hc : isLineBreak c with
    | true =>
      rw [(List.forall_mem_cons.1 h).1 hc, codeLines_newline, ih hrest,
        Text.splitOn_cons_self]
    | false =>
      have hne : c ≠ '\n' := by
        rintro rfl
        exact absurd hc (by decide)
      obtain ⟨line, more, hs⟩ := List.exists_cons_of_ne_nil (List.splitOn_ne_nil '\n' rest)
      rw [codeLines_cons hc ((ih hrest).trans hs), Text.splitOn_cons_of_ne hne hs]

/-- Such a text is the join of its lines. -/
theorem intercalate_codeLines {text : Text} (h : OnlyNewlines text) :
    List.intercalate ['\n'] (codeLines text) = text := by
  rw [codeLines_eq_splitOn h, List.intercalate_splitOn]

/-! ## Escaped literals -/

theorem isControl_or_isLineBreak_hexDigit :
    ∀ n < 16, (isControl (hexDigit n) || isLineBreak (hexDigit n)) = false := by
  decide

/-- An escape sequence needs no escape itself. -/
theorem Spelling.isControl_or_isLineBreak_of_mem {c d : Char} {spelled : Text}
    (hs : Spelling c spelled) (hd : d ∈ spelled) : (isControl d || isLineBreak d) = false := by
  have hall : (['\\', '"', 'n', 'r', 't', '0', 'u'].all
      fun e => !(isControl e || isLineBreak e)) = true := by decide
  have written : ∀ e ∈ ['\\', '"', 'n', 'r', 't', '0', 'u'],
      (isControl e || isLineBreak e) = false :=
    fun e he => by simpa using List.all_eq_true.1 hall e he
  cases hs with
  | letter he _ =>
    rcases List.mem_cons.1 hd with rfl | hd
    · exact written _ (by decide)
    · rw [List.mem_singleton.1 hd]
      exact written _ (List.mem_append_left ['u'] he)
  | codePoint h =>
    have hlt : c.toNat < 65536 := toNat_lt_of_isControl_or_isLineBreak h
    simp only [List.mem_cons, List.not_mem_nil, or_false] at hd
    rcases hd with rfl | rfl | rfl | rfl | rfl | rfl
    · exact written _ (by decide)
    · exact written _ (by decide)
    · exact isControl_or_isLineBreak_hexDigit _ (by omega)
    · exact isControl_or_isLineBreak_hexDigit _ (by omega)
    · exact isControl_or_isLineBreak_hexDigit _ (by omega)
    · exact isControl_or_isLineBreak_hexDigit _ (by omega)
  | plain _ _ h => rwa [List.mem_singleton.1 hd]

theorem printable_escaped (text : Text) : Printable (escaped text) := by
  refine Printable.cons (by decide) (Printable.append ?_ (by decide))
  intro d hd
  obtain ⟨c, -, hd⟩ := List.mem_flatMap.1 hd
  exact (spelling_escapeChar c).isControl_or_isLineBreak_of_mem hd

/-! ## Raw literals -/

theorem onlyNewlines_raw {indent text : Text} (hi : IsIndent indent) (fence : Nat)
    (h : canEmbedRaw text = true) : OnlyNewlines (raw fence indent text) := by
  have hquotes : OnOneLine (List.replicate fence '"') := by
    intro c hc
    rw [List.eq_of_mem_replicate hc]
    decide
  have hlines : OnlyNewlines ((List.splitOn '\n' text).flatMap (rawLine indent)) := by
    intro c hc hl
    obtain ⟨line, hline, hc⟩ := List.mem_flatMap.1 hc
    rw [rawLine_eq] at hc
    rcases List.mem_append.1 hc with hc | hc
    · exact (onOneLine_indented hi (onOneLine_of_mem_splitOn h hline)).onlyNewlines c hc hl
    · exact List.mem_singleton.1 hc
  exact hquotes.onlyNewlines.append
    (hlines.append (hi.onOneLine.append hquotes).onlyNewlines).cons_newline

/-! ## Both forms -/

theorem onlyNewlines_format {indent : Text} (hi : IsIndent indent) (text : Text) :
    OnlyNewlines (format indent text) := by
  rw [format]
  cases h : formOf text with
  | escaped => exact (printable_escaped text).onOneLine.onlyNewlines
  | raw fence => exact onlyNewlines_raw hi fence (formOf_eq_raw_iff.1 h).2.1

theorem head?_format (indent text : Text) : (format indent text).head? = some '"' := by
  rw [format]
  cases h : formOf text with
  | escaped => rfl
  | raw fence =>
    obtain ⟨n, rfl⟩ := Nat.exists_eq_add_of_le' (runsBelow_of_formOf h).1
    rfl

end Literal
end DocViews
