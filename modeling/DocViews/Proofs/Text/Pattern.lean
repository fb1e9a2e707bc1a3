import DocViews.Text.Basic
import Mathlib.Data.List.TakeWhile

/-!
# Patterns

A pattern is a sequence of characters and of repetitions of a class of characters.  It is matched
*leftmost first*: at the first position at which it matches at all, and there with the first choice
of lengths that leads to a match, where a *greedy* repetition tries longer runs first and a lazy one
shorter runs.  What the *kept* repetitions take is captured.

* `exists_of_matchMany` — a repetition takes characters of its class, whatever it tries first;
* `matchMany_of_stopped` — if what follows never begins in the class, a repetition takes all that it
  can, and which lengths are tried first does not matter.
-/

set_option autoImplicit false

namespace DocViews

inductive PatternPart where
  /-- This character. -/
  | char (c : Char)
  /-- Any number of characters of a class. -/
  | many (greedy kept : Bool) (inClass : Char → Bool)

abbrev Pattern := List PatternPart

namespace Pattern

/-- Matches a repetition and then what follows it, and gives the capture and the text behind. -/
def matchMany (greedy kept : Bool) (inClass : Char → Bool)
    (next : Text → Option (Text × Text)) : Text → Option (Text × Text)
  | [] => next []
  | c :: rest =>
    let stop := next (c :: rest)
    let onward :=
      if inClass c then
        (matchMany greedy kept inClass next rest).map fun m => (if kept then c :: m.1 else m.1, m.2)
      else none
    if greedy then onward.or stop else stop.or onward

/-- Matches a pattern at the start of a text, and gives the capture and the text behind. -/
def matchHere : Pattern → Text → Option (Text × Text)
  | [], text => some ([], text)
  | .char c :: parts, text => (List.isPrefixOf? [c] text).bind (matchHere parts)
  | .many greedy kept inClass :: parts, text =>
    matchMany greedy kept inClass (matchHere parts) text

/-- The captures of a pattern that matches no empty text, behind so many characters of a match. -/
def capturesFrom (pattern : Pattern) : Nat → Text → List Text
  | _, [] => []
  | skipped + 1, _ :: rest => capturesFrom pattern skipped rest
  | 0, c :: rest =>
    match matchHere pattern (c :: rest) with
    | some (capture, after) => capture :: capturesFrom pattern (rest.length - after.length) rest
    | none => capturesFrom pattern 0 rest

/-- The captures of a pattern in a text.  The search goes on behind each match. -/
def captures (pattern : Pattern) (text : Text) : List Text :=
  capturesFrom pattern 0 text

/-! ## Repetitions -/

variable {greedy kept : Bool} {inClass : Char → Bool} {next : Text → Option (Text × Text)}

/-- A repetition stops at once, or takes a character of its class and goes on. -/
theorem matchMany_cons_cases {c : Char} {rest capture after : Text}
    (h : matchMany greedy kept inClass next (c :: rest) = some (capture, after)) :
    next (c :: rest) = some (capture, after) ∨
      inClass c = true ∧ ∃ inner, matchMany greedy kept inClass next rest = some (inner, after) ∧
        capture = if kept then c :: inner else inner := by
  have honward : (if inClass c then
        (matchMany greedy kept inClass next rest).map fun m => (if kept then c :: m.1 else m.1, m.2)
      else none) = some (capture, after) →
      inClass c = true ∧ ∃ inner, matchMany greedy kept inClass next rest = some (inner, after) ∧
        capture = if kept then c :: inner else inner := by
    intro hmap
    split at hmap
    · next hc =>
      obtain ⟨⟨inner, behind⟩, hinner, heq⟩ := Option.map_eq_some_iff.1 hmap
      obtain ⟨rfl, rfl⟩ := Prod.mk.inj heq
      exact ⟨hc, inner, hinner, rfl⟩
    · exact absurd hmap (by simp)
  rw [matchMany] at h
  split at h
  · exact (Option.or_eq_some_iff.1 h).elim (fun h => .inr (honward h)) fun h => .inl h.2
  · exact (Option.or_eq_some_iff.1 h).elim .inl fun h => .inr (honward h.2)

/-- **A repetition takes characters of its class, and what follows it matches behind them.** -/
theorem exists_of_matchMany {text capture after : Text}
    (h : matchMany greedy kept inClass next text = some (capture, after)) :
    ∃ taken rest further, text = taken ++ rest ∧ (∀ c ∈ taken, inClass c = true) ∧
      next rest = some (further, after) ∧ capture = (if kept then taken else []) ++ further := by
  induction text generalizing capture with
  | nil => exact ⟨[], [], capture, rfl, by simp, h, by simp⟩
  | cons c rest ih =>
    rcases matchMany_cons_cases h with hnext | ⟨hc, inner, hinner, rfl⟩
    · exact ⟨[], c :: rest, capture, rfl, by simp, hnext, by simp⟩
    · obtain ⟨taken, behind, further, rfl, htaken, hnext, rfl⟩ := ih hinner
      refine ⟨c :: taken, behind, further, rfl, List.forall_mem_cons.2 ⟨hc, htaken⟩, hnext, ?_⟩
      cases kept <;> rfl

/-- **If what follows a repetition never begins in the class, the repetition takes all that it
can.** -/
theorem matchMany_of_stopped (h : ∀ c rest, inClass c = true → next (c :: rest) = none)
    (text : Text) :
    matchMany greedy kept inClass next text
      = (next (text.dropWhile inClass)).map fun m =>
          ((if kept then text.takeWhile inClass else []) ++ m.1, m.2) := by
  induction text with
  | nil => cases hnext : next [] <;> cases kept <;> simp [matchMany, hnext]
  | cons c rest ih =>
    rw [matchMany]
    by_cases hc : inClass c = true
    · rw [h c rest hc, ih, if_pos hc, List.dropWhile_cons_of_pos hc, List.takeWhile_cons_of_pos hc]
      cases next (rest.dropWhile inClass) <;> cases greedy <;> cases kept <;> rfl
    · rw [if_neg hc, List.dropWhile_cons_of_neg hc, List.takeWhile_cons_of_neg hc]
      cases next (c :: rest) <;> cases greedy <;> cases kept <;> rfl

/-! ## Characters -/

/-- Characters at the start of a pattern are dropped from the text. -/
theorem matchHere_chars (chars : Text) (parts : Pattern) (text : Text) :
    matchHere (chars.map .char ++ parts) text
      = (List.isPrefixOf? chars text).bind (matchHere parts) := by
  induction chars generalizing text with
  | nil => rfl
  | cons c more ih =>
    cases text with
    | nil => rfl
    | cons d rest =>
      have hchars : List.isPrefixOf? (c :: more) (d :: rest)
          = if c == d then List.isPrefixOf? more rest else none := rfl
      have hchar : List.isPrefixOf? [c] (d :: rest) = if c == d then some rest else none := rfl
      rw [List.map_cons, List.cons_append, matchHere, hchars, hchar]
      cases c == d
      · rfl
      · exact ih rest

end Pattern
end DocViews
