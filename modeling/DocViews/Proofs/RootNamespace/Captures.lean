import DocViews.Proofs.RootNamespace.Declaration
import DocViews.Proofs.Text.Pattern

/-!
# The root namespace as a capture

The three repetitions of `RootNamespace.pattern` compete for the blanks between the tags.  Matched
leftmost first, with the lazy one in the middle, the pattern captures what is declared without the
blanks around it (`matchHere_pattern_eq_some_iff`), and goes on to capture everything that is
declared (`captures_pattern`).  So **the root namespace is the first capture that is not empty**, and
is exactly what the first declaration that is not blank says (`ofText?_exact`).
-/

set_option autoImplicit false

namespace DocViews
namespace RootNamespace

open Pattern Text

/-! ## The pattern -/

/-- The tags, with blanks, a name and blanks between them.  The blanks take as much as they can, the
name as little as it can, and the name is captured. -/
def pattern : Pattern :=
  openTag.map .char ++ .many true false isBlank :: .many false true (· ≠ '<') ::
    .many true false isBlank :: closeTag.map .char

/-- The parts of the pattern behind the opening tag. -/
def blanksBehind : Pattern := .many true false isBlank :: closeTag.map .char

def nameOnward : Pattern := .many false true (· ≠ '<') :: blanksBehind

def blanksOnward : Pattern := .many true false isBlank :: nameOnward

theorem matchHere_closeTag (text : Text) :
    matchHere (closeTag.map .char) text = (List.isPrefixOf? closeTag text).map ([], ·) := by
  rw [← List.append_nil (closeTag.map PatternPart.char), matchHere_chars]
  cases List.isPrefixOf? closeTag text <;> rfl

/-- The last blanks are followed by a tag, so they are all there are. -/
theorem matchHere_blanksBehind (text : Text) :
    matchHere blanksBehind text = (List.isPrefixOf? closeTag (trimStart text)).map ([], ·) := by
  have hstopped : ∀ c rest, isBlank c = true → matchHere (closeTag.map .char) (c :: rest) = none := by
    intro c rest hc
    have hne : '<' ≠ c := fun heq => absurd (heq ▸ hc) (by decide)
    rw [matchHere_closeTag, closeTag_eq, List.isPrefixOf?, if_neg (by simpa using hne)]
    rfl
  rw [blanksBehind, matchHere, matchMany_of_stopped hstopped, matchHere_closeTag, trimStart]
  cases List.isPrefixOf? closeTag (text.dropWhile isBlank) <;> rfl

/-- What stands in front of a closing tag can be the last blanks if it is blank. -/
theorem matchHere_blanksBehind_append {inner : Text} (h : '<' ∉ inner) (after : Text) :
    matchHere blanksBehind (inner ++ closeTag ++ after)
      = if isBlankText inner then some ([], after) else none := by
  rw [matchHere_blanksBehind, List.append_assoc]
  split
  · next hblank =>
    rw [trimStart_append hblank, closeTag_eq, List.cons_append,
      trimStart_cons_of_not_blank (by decide), ← List.cons_append, ← closeTag_eq,
      isPrefixOf?_append]
    rfl
  · next hblank =>
    induction inner with
    | nil => exact absurd rfl hblank
    | cons c rest ih =>
      rw [List.mem_cons, not_or] at h
      rw [List.cons_append]
      cases hc : isBlank c with
      | true =>
        rw [trimStart_cons_of_blank hc]
        exact ih h.2 (by simpa [isBlankText, hc] using hblank)
      | false =>
        rw [trimStart_cons_of_not_blank hc, closeTag_eq, List.isPrefixOf?,
          if_neg (by simpa using h.1)]
        rfl

theorem matchHere_nameOnward_cons (c : Char) (rest : Text) :
    matchHere nameOnward (c :: rest)
      = (matchHere blanksBehind (c :: rest)).or
          (if decide (c ≠ '<') then
            (matchHere nameOnward rest).map fun m => (c :: m.1, m.2)
          else none) :=
  rfl

/-- **The name ends as soon as only blanks are in front of the closing tag.** -/
theorem matchHere_nameOnward {inner : Text} (h : '<' ∉ inner) (after : Text) :
    matchHere nameOnward (inner ++ closeTag ++ after) = some (trimEnd inner, after) := by
  induction inner with
  | nil =>
    have hstop := matchHere_blanksBehind_append h after
    rw [closeTag_eq, List.nil_append, List.cons_append] at hstop ⊢
    rw [matchHere_nameOnward_cons, hstop]
    rfl
  | cons c rest ih =>
    have hstop := matchHere_blanksBehind_append h after
    rw [List.mem_cons, not_or] at h
    rw [List.cons_append, List.cons_append] at hstop ⊢
    rw [matchHere_nameOnward_cons, hstop, if_pos (decide_eq_true (Ne.symm h.1)), ih h.2]
    by_cases hblank : isBlankText (c :: rest) = true
    · rw [if_pos hblank, trimEnd_eq_nil_iff.2 hblank]
      rfl
    · have htrim : trimEnd (c :: rest) = c :: trimEnd rest := by
        cases hc : isBlank c with
        | false => exact trimEnd_cons_of_not_blank hc rest
        | true =>
          have hrest : isBlankText rest = false := by simpa [isBlankText, hc] using hblank
          exact trimEnd_append_of_not_blank hrest [c]
      rw [if_neg hblank, htrim]
      rfl

theorem matchHere_blanksOnward_cons (c : Char) (rest : Text) :
    matchHere blanksOnward (c :: rest)
      = (if isBlank c then (matchHere blanksOnward rest).map fun m => (m.1, m.2) else none).or
          (matchHere nameOnward (c :: rest)) :=
  rfl

/-- **The blanks in front of the name are all there are.** -/
theorem matchHere_blanksOnward {inner : Text} (h : '<' ∉ inner) (after : Text) :
    matchHere blanksOnward (inner ++ closeTag ++ after) = some (trim inner, after) := by
  induction inner with
  | nil =>
    have hstop := matchHere_nameOnward h after
    rw [closeTag_eq, List.nil_append, List.cons_append] at hstop ⊢
    rw [matchHere_blanksOnward_cons, if_neg (by decide), Option.none_or, hstop]
    rfl
  | cons c rest ih =>
    have hstop := matchHere_nameOnward h after
    rw [List.cons_append, List.cons_append] at hstop ⊢
    rw [matchHere_blanksOnward_cons, hstop]
    cases hc : isBlank c with
    | false =>
      rw [if_neg (by decide), Option.none_or, trim, trimStart_cons_of_not_blank hc]
    | true =>
      rw [if_pos rfl, ih fun hmem => h (List.mem_cons_of_mem _ hmem), trim, trim,
        trimStart_cons_of_blank hc]
      rfl

/-- **The pattern matches at the start of a text if something is declared there**, and captures it
trimmed. -/
theorem matchHere_pattern_eq_some_iff {text name after : Text} :
    matchHere pattern text = some (name, after)
      ↔ ∃ inner, Declares text [] inner after ∧ trim inner = name := by
  have hpattern : matchHere pattern text
      = (List.isPrefixOf? openTag text).bind (matchHere blanksOnward) :=
    matchHere_chars openTag blanksOnward text
  rw [hpattern]
  constructor
  · intro h
    obtain ⟨rest, hopen, hrest⟩ := Option.bind_eq_some_iff.1 h
    obtain ⟨front, onward, name', rfl, hfront, honward, hname'⟩ := exists_of_matchMany hrest
    obtain ⟨bare, behind, none', rfl, hbare, hbehind, -⟩ := exists_of_matchMany honward
    obtain ⟨back, close, last, rfl, hback, hclose, -⟩ := exists_of_matchMany hbehind
    rw [matchHere_closeTag] at hclose
    obtain ⟨after', hdrop, hafter⟩ := Option.map_eq_some_iff.1 hclose
    obtain ⟨-, rfl⟩ := Prod.mk.inj hafter
    rw [List.isPrefixOf?_eq_some_iff_append_eq] at hopen hdrop
    have hnoTag : '<' ∉ front ++ bare ++ back := by
      have hblanks : ∀ blanks : Text, (∀ c ∈ blanks, isBlank c = true) → '<' ∉ blanks :=
        fun blanks hall hmem => absurd (hall _ hmem) (by decide)
      simp only [List.mem_append, not_or]
      exact ⟨⟨hblanks front hfront, fun hmem => absurd (hbare _ hmem) (by decide)⟩,
        hblanks back hback⟩
    have hinner : front ++ (bare ++ (back ++ close)) = front ++ bare ++ back ++ closeTag ++ after' := by
      rw [← hdrop]
      simp only [List.append_assoc]
    refine ⟨front ++ bare ++ back, ⟨?_, hnoTag⟩, ?_⟩
    · rw [← hopen, hinner]
      simp only [List.append_assoc, List.nil_append]
    · rw [hinner, matchHere_blanksOnward hnoTag] at hrest
      exact (Prod.mk.inj (Option.some.inj hrest)).1
  · rintro ⟨inner, ⟨rfl, hinner⟩, rfl⟩
    rw [List.nil_append, List.append_assoc, List.append_assoc, isPrefixOf?_append,
      ← List.append_assoc]
    exact matchHere_blanksOnward hinner after

/-! ## All matches -/

/-- Nothing is declared before the next tag. -/
theorem allDeclared_append {text : Text} (h : '<' ∉ text) (rest : Text) :
    allDeclared (text ++ rest) = allDeclared rest := by
  induction text with
  | nil => rfl
  | cons c more ih =>
    rw [List.mem_cons, not_or] at h
    rw [List.cons_append, allDeclared, declared?_of_ne (Ne.symm h.1), ih h.2]
    rfl

theorem allDeclared_closeTag (rest : Text) : allDeclared (closeTag ++ rest) = allDeclared rest := by
  rw [closeTag_eq, List.cons_append, allDeclared, allDeclared_append notMem_tail_closeTag]
  rfl

/-- The characters of a match are skipped. -/
theorem capturesFrom_append (parts : Pattern) (matched rest : Text) :
    capturesFrom parts matched.length (matched ++ rest) = capturesFrom parts 0 rest := by
  induction matched with
  | nil => rfl
  | cons c more ih => exact ih

/-- **The pattern captures all that is declared.**  A declaration does not begin inside another one,
so no match is lost by going on behind the last one. -/
theorem captures_pattern (text : Text) : captures pattern text = allDeclared text := by
  induction hn : text.length using Nat.strong_induction_on generalizing text with
  | _ n ih =>
    cases text with
    | nil => rfl
    | cons c rest =>
      rw [captures, capturesFrom, allDeclared]
      cases hmatch : matchHere pattern (c :: rest) with
      | none =>
        have hnone : declared? (c :: rest) = none := by
          rw [Option.eq_none_iff_forall_ne_some]
          intro name hname
          obtain ⟨inner, after, hdeclares, htrim⟩ := declared?_eq_some_iff.1 hname
          have hsome := matchHere_pattern_eq_some_iff.2 ⟨inner, hdeclares, htrim⟩
          exact absurd (hmatch.symm.trans hsome) (by simp)
        rw [hnone]
        exact ih rest.length (by rw [← hn, List.length_cons]; omega) rest rfl
      | some found =>
        obtain ⟨name, after⟩ := found
        obtain ⟨inner, hdeclares, rfl⟩ := matchHere_pattern_eq_some_iff.1 hmatch
        have hdeclared := declared?_eq_some_iff.2 ⟨inner, after, hdeclares, rfl⟩
        obtain ⟨heq, hinner⟩ := hdeclares
        have hrest : rest = openTag.tail ++ inner ++ closeTag ++ after := (List.cons.inj heq).2
        have hskip : rest.length - after.length = (openTag.tail ++ inner ++ closeTag).length := by
          rw [hrest, List.length_append]
          omega
        have hshorter : after.length < n := by
          rw [← hn, List.length_cons, hrest, List.length_append]
          omega
        have hquiet : allDeclared rest = allDeclared after := by
          rw [hrest, List.append_assoc, List.append_assoc, allDeclared_append notMem_tail_openTag,
            allDeclared_append hinner, allDeclared_closeTag]
        simp only
        rw [hskip, hdeclared, hquiet, ← ih after.length hshorter after rfl]
        conv_lhs => rw [hrest, capturesFrom_append]
        rfl

/-! ## The root namespace -/

/-- **Reading the root namespace is exact.**  It is the first capture of the pattern that is not
empty.  It is what the first declaration that is not blank says, trimmed, and there is none exactly
when every declaration is blank.  So it is a name that can be declared, and every such name is read
back from between the tags, with any blanks around it, whatever follows, behind every text without
an opening tag. -/
theorem ofText?_exact :
    (∀ text,
      ofText? text = (captures pattern text).find? (· ≠ []) ∧
      (∀ name, ofText? text = some name
        ↔ ∃ before inner after, IsFirst text before inner after ∧ trim inner = name) ∧
      (ofText? text = none
        ↔ ∀ before inner after, Declares text before inner after → isBlankText inner = true) ∧
      ∀ name, ofText? text = some name → IsDeclarable name) ∧
    ∀ name before front back after, IsDeclarable name → ¬ openTag <:+: before →
      isBlankText front = true → isBlankText back = true →
      ofText? (before ++ openTag ++ (front ++ name ++ back) ++ closeTag ++ after) = some name := by
  refine ⟨fun text => ⟨?_, fun name => ofText?_eq_some_iff, ofText?_eq_none_iff,
    fun name => isDeclarable_of_ofText?⟩, ?_⟩
  · rw [captures_pattern, ofText?]
  · intro name before front back after hname hbefore hfront hback
    exact ofText?_embedded hname hbefore hfront hback after

/-- A name with blanks around it, behind a tag that is not finished and in front of another
declaration. -/
theorem ofText?_exact_padded :
    let name := "Acme.Docs".toList
    let before := "<Project><RootNamespace".toList
    let front := "\n  ".toList
    let back := "\u3000\r\n".toList
    let after := "<RootNamespace>Acme.Web</RootNamespace>".toList
    (IsDeclarable name ∧ ¬ openTag <:+: before ∧ isBlankText front = true ∧
      isBlankText back = true) ∧
    ofText? (before ++ openTag ++ (front ++ name ++ back) ++ closeTag ++ after) = some name := by
  intro name before front back after
  have hname : IsDeclarable name := by
    refine ⟨by decide, by decide, ?_⟩
    rintro c (h | h)
    · obtain rfl := Option.some.inj (h : some 'A' = some c)
      decide
    · obtain rfl := Option.some.inj (h : some 's' = some c)
      decide
  have hbefore : ¬ openTag <:+: before := by decide
  have hfront : isBlankText front = true := by decide
  have hback : isBlankText back = true := by decide
  exact ⟨⟨hname, hbefore, hfront, hback⟩,
    ofText?_exact.2 name before front back after hname hbefore hfront hback⟩

end RootNamespace
end DocViews
