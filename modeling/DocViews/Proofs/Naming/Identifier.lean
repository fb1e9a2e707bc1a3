import DocViews.Naming.Identifier
import DocViews.Proofs.Literal.Reader

/-!
# The characters of identifiers

Identifiers and dotted paths hold word characters, underscores and points.  So they hold none of the
characters that end or separate the parts of generated code, no line break and no control
character.
-/

set_option autoImplicit false

namespace DocViews
namespace Identifier

/-! ## Which characters there are -/

theorem isIdentifierChar_underscore : isIdentifierChar '_' = true := by
  rw [isIdentifierChar, decide_eq_true rfl, Bool.or_true]

theorem isIdentifierChar_sanitizeChar (c : Char) : isIdentifierChar (sanitizeChar c) = true := by
  rw [sanitizeChar]
  split
  · assumption
  · exact isIdentifierChar_underscore

theorem isIdentifierChar_of_mem_ofName {name : Text} {c : Char} (h : c ∈ ofName name) :
    isIdentifierChar c = true := by
  have hmap : ∀ d ∈ name.map sanitizeChar, isIdentifierChar d = true := by
    intro d hd
    obtain ⟨e, -, rfl⟩ := List.mem_map.1 hd
    exact isIdentifierChar_sanitizeChar e
  rw [ofName] at h
  cases hs : name.map sanitizeChar with
  | nil =>
    rw [hs] at h
    exact absurd h List.not_mem_nil
  | cons first rest =>
    rw [hs] at hmap h
    rw [guardDigit] at h
    split at h
    · rcases List.mem_cons.1 h with rfl | h
      · exact isIdentifierChar_underscore
      · exact hmap c h
    · exact hmap c h

/-- An identifier needs no repair. -/
theorem ofName_eq_of_isIdentifier {name : Text} (h : isIdentifier name = true) :
    ofName name = name := by
  rw [isIdentifier, Bool.and_eq_true, beq_iff_eq] at h
  exact h.2

theorem isIdentifierChar_of_mem {name : Text} (hn : isIdentifier name = true) {c : Char}
    (h : c ∈ name) : isIdentifierChar c = true := by
  rw [← ofName_eq_of_isIdentifier hn] at h
  exact isIdentifierChar_of_mem_ofName h

theorem isIdentifierChar_or_eq_point_of_mem {name : Text} (hn : isDottedPath name = true)
    {c : Char} (h : c ∈ name) : isIdentifierChar c = true ∨ c = '.' := by
  rw [isDottedPath, List.all_eq_true] at hn
  have hjoin : List.intercalate ['.'] (List.splitOn '.' name) = name := List.intercalate_splitOn '.'
  rw [← hjoin] at h
  rcases Text.mem_of_mem_intercalate h with h | ⟨part, hpart, h⟩
  · exact Or.inr (List.mem_singleton.1 h)
  · exact Or.inl (isIdentifierChar_of_mem (hn part hpart) h)

/-! ## Which characters there are not -/

/-- The characters that separate the parts of generated code. -/
theorem isIdentifierChar_separator (c : Char)
    (h : c ∈ ['\n', '\r', '\u0085', '\u2028', '\u2029', ' ', ';', ':', '(', ')', ',', '"', '/']) :
    isIdentifierChar c = false := by
  have hall : (['\n', '\r', '\u0085', '\u2028', '\u2029', ' ', ';', ':', '(', ')', ',', '"',
      '/'].all (!isIdentifierChar ·)) = true := by decide +kernel
  simpa using List.all_eq_true.1 hall c h

theorem notMem_of_isDottedPath {name : Text} (hn : isDottedPath name = true) {c : Char}
    (hc : isIdentifierChar c = false) (hp : c ≠ '.') : c ∉ name := by
  intro h
  rcases isIdentifierChar_or_eq_point_of_mem hn h with h | h
  · rw [hc] at h
    exact absurd h (by decide)
  · exact hp h

theorem isLineBreak_of_isIdentifierChar {c : Char} (h : isIdentifierChar c = true) :
    Literal.isLineBreak c = false := by
  by_contra hl
  rw [Bool.not_eq_false] at hl
  simp only [Literal.isLineBreak, Bool.or_eq_true, decide_eq_true_eq] at hl
  have hfalse : isIdentifierChar c = false := isIdentifierChar_separator c (by
    rcases hl with (((rfl | rfl) | rfl) | rfl) | rfl <;> decide)
  rw [hfalse] at h
  exact absurd h (by decide)

/-- No range of word characters reaches into one of the two ranges of control characters. -/
theorem isControl_of_isWordChar {c : Char} (h : isWordChar c = true) : isControl c = false := by
  have hall : (wordTable.all fun range =>
      (0x20 ≤ range.1 && range.2 < 0x7f) || 0xa0 ≤ range.1) = true := by decide +kernel
  rw [isWordChar, CharTable.covers_iff] at h
  obtain ⟨range, hmem, hfirst, hlast⟩ := h
  have hrange := List.all_eq_true.1 hall range hmem
  simp only [Bool.or_eq_true, Bool.and_eq_true, decide_eq_true_eq] at hrange
  simp only [isControl, Bool.or_eq_false_iff, Bool.and_eq_false_iff, decide_eq_false_iff_not]
  omega

theorem isControl_of_isIdentifierChar {c : Char} (h : isIdentifierChar c = true) :
    isControl c = false := by
  rw [isIdentifierChar, Bool.or_eq_true, decide_eq_true_eq] at h
  rcases h with h | rfl
  · exact isControl_of_isWordChar h
  · decide

theorem isControl_or_isLineBreak_of_isIdentifierChar {c : Char}
    (h : isIdentifierChar c = true) : (isControl c || Literal.isLineBreak c) = false := by
  rw [isControl_of_isIdentifierChar h, isLineBreak_of_isIdentifierChar h, Bool.or_false]

theorem printable_ofName (name : Text) : Literal.Printable (ofName name) :=
  fun _ h => isControl_or_isLineBreak_of_isIdentifierChar (isIdentifierChar_of_mem_ofName h)

theorem printable_of_isDottedPath {name : Text} (hn : isDottedPath name = true) :
    Literal.Printable name := by
  intro c h
  rcases isIdentifierChar_or_eq_point_of_mem hn h with h | rfl
  · exact isControl_or_isLineBreak_of_isIdentifierChar h
  · decide

theorem onOneLine_ofName (name : Text) : Literal.OnOneLine (ofName name) :=
  (printable_ofName name).onOneLine

theorem onOneLine_of_isDottedPath {name : Text} (hn : isDottedPath name = true) :
    Literal.OnOneLine name :=
  (printable_of_isDottedPath hn).onOneLine

end Identifier
end DocViews
