import DocViews.Proofs.Literal.RoundTrip

/-!
# The fence is the shortest one

A raw literal is closed by the first run of quotes that is as long as its fence, so a fence must not
occur in the text; and it is no longer than it has to be.  `formOf_exact` says both, and for which
texts the raw form is chosen at all.

The length of the fence comes from a scan for the longest run of quotes.  No run is longer than what
the scan finds (`quoteRun_le_longestQuoteRunFrom`), and a run of this length is there
(`replicate_longestQuoteRunFrom`), so the runs that occur in a text are those up to the longest one
(`replicate_infix_iff`).
-/

set_option autoImplicit false

namespace DocViews
namespace Literal

/-! ## Runs that occur in a text -/

/-- A shorter run of quotes is a part of a longer one. -/
theorem replicate_infix_replicate {m n : Nat} (h : m ≤ n) :
    List.replicate m '"' <:+: List.replicate n '"' := by
  rw [← Nat.add_sub_cancel' h, List.replicate_add]
  exact (List.prefix_append _ _).isInfix

/-- **What the scan finds is there.**  The induction is on the text that is still to be read; `front`
has been read, ends in a run of `run` quotes and holds one of `longest` quotes. -/
theorem replicate_longestQuoteRunFrom {run longest : Nat} {front : Text}
    (hrun : List.replicate run '"' <:+ front) (hlongest : List.replicate longest '"' <:+: front)
    (text : Text) :
    List.replicate (longestQuoteRunFrom run longest text) '"' <:+: front ++ text := by
  induction text generalizing run longest front with
  | nil => rwa [longestQuoteRunFrom, List.append_nil]
  | cons c rest ih =>
    rw [longestQuoteRunFrom, List.append_cons]
    have hkept : List.replicate longest '"' <:+: front ++ [c] :=
      hlongest.trans (List.prefix_append _ _).isInfix
    split
    · next hc =>
      subst hc
      have hnext : List.replicate (run + 1) '"' <:+ front ++ ['"'] := by
        obtain ⟨before, rfl⟩ := hrun
        rw [List.append_assoc, ← List.replicate_succ']
        exact List.suffix_append _ _
      refine ih hnext ?_
      rcases Nat.le_total longest (run + 1) with h | h
      · rw [Nat.max_eq_right h]
        exact hnext.isInfix
      · rw [Nat.max_eq_left h]
        exact hkept
    · exact ih List.nil_suffix hkept

/-- The runs of quotes in a text are those up to the longest one. -/
theorem replicate_infix_iff {n : Nat} {text : Text} :
    List.replicate n '"' <:+: text ↔ n ≤ longestQuoteRun text := by
  constructor
  · rintro ⟨before, after, rfl⟩
    have hrun : quoteRun (List.replicate n '"' ++ after)
        ≤ longestQuoteRun (before ++ List.replicate n '"' ++ after) :=
      quoteRun_le_longestQuoteRunFrom (Nat.le_refl 0) ⟨before, (List.append_assoc ..).symm⟩
    rw [quoteRun_replicate_append] at hrun
    exact Nat.le_trans (Nat.le_add_right n _) hrun
  · intro h
    exact (replicate_infix_replicate h).trans
      (@replicate_longestQuoteRunFrom 0 0 [] List.nil_suffix List.nil_infix text)

/-! ## The shortest fence -/

/-- A fence that cannot be mistaken for a part of the text, while every shorter one could. -/
structure IsShortestFence (fence : Nat) (text : Text) : Prop where
  three_le : 3 ≤ fence
  not_infix : ¬ List.replicate fence '"' <:+: text
  infix_of_lt : ∀ n, 3 ≤ n → n < fence → List.replicate n '"' <:+: text

theorem isShortestFence_longestQuoteRun (text : Text) :
    IsShortestFence (max (longestQuoteRun text) 2 + 1) text := by
  refine ⟨by omega, ?_, fun n hthree hlt => ?_⟩
  · rw [replicate_infix_iff]
    omega
  · rw [replicate_infix_iff]
    omega

theorem IsShortestFence.unique {m n : Nat} {text : Text} (hm : IsShortestFence m text)
    (hn : IsShortestFence n text) : m = n := by
  rcases Nat.lt_trichotomy m n with h | h | h
  · exact absurd (hn.infix_of_lt m hm.three_le h) hm.not_infix
  · exact h
  · exact absurd (hm.infix_of_lt n hn.three_le h) hn.not_infix

/-! ## The texts that are written raw -/

/-- A text that needs more than one plain line, and that a raw literal can hold. -/
structure SuitsRaw (text : Text) : Prop where
  wanted : '\n' ∈ text ∨ '"' ∈ text
  lines : ∀ line ∈ List.splitOn '\n' text, line = [] ∨ ∃ c ∈ line, isBlank c = false
  control : ∀ c ∈ text, isControl c = true → c = '\n' ∨ c = '\t'
  separators : '\u2028' ∉ text ∧ '\u2029' ∉ text

theorem isPaddedLine_eq_false_iff {line : Text} :
    isPaddedLine line = false ↔ line = [] ∨ ∃ c ∈ line, isBlank c = false := by
  rw [isPaddedLine, Bool.and_eq_false_iff, decide_eq_false_iff_not, Decidable.not_not,
    Text.isBlankText, List.all_eq_false]
  simp only [Bool.not_eq_true]

/-- The line breaks that are no control characters are the two separators. -/
theorem isRawUnsafe_eq_false_iff {c : Char} :
    isRawUnsafe c = false ↔
      (isControl c = true → c = '\n' ∨ c = '\t') ∧ c ≠ '\u2028' ∧ c ≠ '\u2029' := by
  by_cases hn : c = '\n'
  · subst hn
    decide
  by_cases ht : c = '\t'
  · subst ht
    decide
  by_cases hr : c = '\r'
  · subst hr
    decide
  by_cases hnext : c = '\u0085'
  · subst hnext
    decide
  simp [isRawUnsafe, isLineBreak, hn, ht, hr, hnext]

theorem canEmbedRaw_iff {text : Text} :
    canEmbedRaw text = true ↔
      (∀ line ∈ List.splitOn '\n' text, line = [] ∨ ∃ c ∈ line, isBlank c = false) ∧
        ∀ c ∈ text, (isControl c = true → c = '\n' ∨ c = '\t') ∧ c ≠ '\u2028' ∧ c ≠ '\u2029' := by
  rw [canEmbedRaw, Bool.and_eq_true, Bool.not_eq_true', Bool.not_eq_true', List.any_eq_false,
    List.any_eq_false, and_comm]
  simp only [Bool.not_eq_true, isPaddedLine_eq_false_iff, isRawUnsafe_eq_false_iff]

/-- Of the line breaks only the line feed is left when the raw form can hold the text. -/
theorem wantsRaw_iff {text : Text} (h : canEmbedRaw text = true) :
    wantsRaw text = true ↔ '\n' ∈ text ∨ '"' ∈ text := by
  rw [wantsRaw, List.any_eq_true]
  constructor
  · rintro ⟨c, hc, hwants⟩
    rw [Bool.or_eq_true, decide_eq_true_iff] at hwants
    rcases hwants with hbreak | rfl
    · exact Or.inl (eq_newline_of_isLineBreak h hc hbreak ▸ hc)
    · exact Or.inr hc
  · rintro (hc | hc)
    · exact ⟨'\n', hc, rfl⟩
    · exact ⟨'"', hc, rfl⟩

theorem suitsRaw_iff {text : Text} :
    SuitsRaw text ↔ wantsRaw text = true ∧ canEmbedRaw text = true := by
  constructor
  · rintro ⟨hwanted, hlines, hcontrol, hfirst, hsecond⟩
    have hembed : canEmbedRaw text = true := canEmbedRaw_iff.2 ⟨hlines, fun c hc =>
      ⟨hcontrol c hc, fun heq => hfirst (heq ▸ hc), fun heq => hsecond (heq ▸ hc)⟩⟩
    exact ⟨(wantsRaw_iff hembed).2 hwanted, hembed⟩
  · rintro ⟨hwants, hembed⟩
    obtain ⟨hlines, hchars⟩ := canEmbedRaw_iff.1 hembed
    exact ⟨(wantsRaw_iff hembed).1 hwants, hlines, fun c hc => (hchars c hc).1,
      fun hmem => (hchars _ hmem).2.1 rfl, fun hmem => (hchars _ hmem).2.2 rfl⟩

/-- **The raw form is chosen for the texts that suit it, with the shortest fence.** -/
theorem formOf_exact (text : Text) :
    (∀ fence, formOf text = .raw fence ↔ SuitsRaw text ∧ IsShortestFence fence text) ∧
      ((∃ fence, formOf text = .raw fence) ↔ SuitsRaw text) := by
  have hraw : ∀ fence, formOf text = .raw fence ↔ SuitsRaw text ∧ IsShortestFence fence text := by
    intro fence
    rw [formOf_eq_raw_iff, ← and_assoc, ← suitsRaw_iff]
    have hshortest := isShortestFence_longestQuoteRun text
    exact and_congr_right fun _ => ⟨fun h => h ▸ hshortest, fun h => h.unique hshortest⟩
  refine ⟨hraw, ⟨fun ⟨fence, h⟩ => ((hraw fence).1 h).1, fun h => ?_⟩⟩
  exact ⟨_, (hraw _).2 ⟨h, isShortestFence_longestQuoteRun text⟩⟩

/-- Runs at the start, across a line break and at the end: the longest one has four quotes. -/
example : formOf "\"\"\"a\"\"\n\"\"b\"\"\"\"".toList = .raw 5 := by decide

end Literal
end DocViews
