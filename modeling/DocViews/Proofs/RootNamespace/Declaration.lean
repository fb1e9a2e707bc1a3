import DocViews.Proofs.Text.Split
import DocViews.Proofs.Text.Trim
import DocViews.RootNamespace
import Mathlib.Data.Nat.Find

/-!
# The root namespace that a descriptor declares

A text *declares* something wherever the two tags stand with a text between them that holds no `<`.
The root namespace is what stands between the tags, trimmed, at the first place where that is not
blank (`RootNamespace.ofText?_eq_some_iff`).  A name that is put between the tags is read back,
whatever is behind them, and in front of them too if it has no opening tag (`ofText?_embedded`).
-/

set_option autoImplicit false

namespace DocViews
namespace RootNamespace

open Text

/-- The tags stand behind a beginning of a text, with something between them that holds no `<`. -/
structure Declares (text before inner after : Text) : Prop where
  eq_append : text = before ++ openTag ++ inner ++ closeTag ++ after
  noTag : '<' ∉ inner

/-- The first place at which something is declared that is not blank. -/
structure IsFirst (text before inner after : Text) : Prop where
  declares : Declares text before inner after
  notBlank : isBlankText inner = false
  first : ∀ before' inner' after', Declares text before' inner' after' →
    isBlankText inner' = false → before.length ≤ before'.length

/-- What can be declared: a name that is not empty, holds no `<`, and has no blanks around it. -/
structure IsDeclarable (name : Text) : Prop where
  ne_nil : name ≠ []
  noTag : '<' ∉ name
  trimmed : IsTrimmed name

/-! ## The tags -/

theorem openTag_eq : openTag = '<' :: openTag.tail := rfl

theorem notMem_tail_openTag : '<' ∉ openTag.tail := by decide

theorem closeTag_eq : closeTag = '<' :: closeTag.tail := rfl

theorem notMem_tail_closeTag : '<' ∉ closeTag.tail := by decide

theorem takeWhile_inner {inner : Text} (h : '<' ∉ inner) (after : Text) :
    (inner ++ closeTag ++ after).takeWhile (· ≠ '<') = inner := by
  have hinner : ∀ c ∈ inner, decide (c ≠ '<') = true := fun c hc =>
    decide_eq_true fun heq => h (heq ▸ hc)
  rw [List.append_assoc, List.takeWhile_append_of_pos hinner]
  exact List.append_nil inner

theorem dropWhile_inner {inner : Text} (h : '<' ∉ inner) (after : Text) :
    (inner ++ closeTag ++ after).dropWhile (· ≠ '<') = closeTag ++ after := by
  have hinner : ∀ c ∈ inner, decide (c ≠ '<') = true := fun c hc =>
    decide_eq_true fun heq => h (heq ▸ hc)
  rw [List.append_assoc, List.dropWhile_append_of_pos hinner]
  rfl

/-! ## One declaration -/

/-- **What is declared at the start of a text** is what stands between the tags, trimmed. -/
theorem declared?_eq_some_iff {text name : Text} :
    declared? text = some name ↔ ∃ inner after, Declares text [] inner after ∧ trim inner = name := by
  constructor
  · intro h
    obtain ⟨rest, hopen, h⟩ := Option.bind_eq_some_iff.1 h
    obtain ⟨after, hclose, hname⟩ := Option.bind_eq_some_iff.1 h
    rw [List.isPrefixOf?_eq_some_iff_append_eq] at hopen hclose
    refine ⟨rest.takeWhile (· ≠ '<'), after, ⟨?_, fun hmem => ?_⟩, Option.some.inj hname⟩
    · rw [← hopen, List.nil_append, List.append_assoc, List.append_assoc, hclose,
        List.takeWhile_append_dropWhile]
    · exact absurd (List.mem_takeWhile_imp hmem) (by simp)
  · rintro ⟨inner, after, ⟨rfl, hinner⟩, rfl⟩
    rw [declared?, List.nil_append, List.append_assoc, List.append_assoc, isPrefixOf?_append,
      ← List.append_assoc]
    simp only [bind, Option.bind, takeWhile_inner hinner, dropWhile_inner hinner,
      isPrefixOf?_append]
    rfl

theorem declared?_of_ne {c : Char} (h : c ≠ '<') (rest : Text) : declared? (c :: rest) = none := by
  rw [declared?, openTag_eq, List.isPrefixOf?, if_neg (by simpa using Ne.symm h)]
  rfl

/-- Behind the first character a text declares what the rest of it declares. -/
theorem declares_cons_iff {c d : Char} {rest before inner after : Text} :
    Declares (c :: rest) (d :: before) inner after ↔ d = c ∧ Declares rest before inner after := by
  constructor
  · rintro ⟨heq, hinner⟩
    obtain ⟨hc, hrest⟩ := List.cons.inj heq
    exact ⟨hc.symm, hrest, hinner⟩
  · rintro ⟨rfl, rfl, hinner⟩
    exact ⟨rfl, hinner⟩

theorem not_declares_nil {before inner after : Text} : ¬ Declares [] before inner after := by
  rintro ⟨heq, -⟩
  rw [openTag_eq] at heq
  exact absurd heq (by simp)

/-! ## The first declaration -/

theorem ofText?_cons (c : Char) (rest : Text) :
    ofText? (c :: rest) = ((declared? (c :: rest)).filter (· ≠ [])).or (ofText? rest) := by
  rw [ofText?, allDeclared, List.find?_append]
  cases declared? (c :: rest) with
  | none => rfl
  | some name =>
    rw [Option.toList_some, List.find?_singleton, Option.filter_some, ofText?]

/-- If nothing that is not blank is declared at the start, the first declaration is in the rest. -/
theorem isFirst_cons_iff {c : Char} {rest before inner after : Text}
    (h : ∀ inner after, Declares (c :: rest) [] inner after → isBlankText inner = true) :
    IsFirst (c :: rest) before inner after
      ↔ ∃ front, before = c :: front ∧ IsFirst rest front inner after := by
  constructor
  · rintro ⟨hdeclares, hblank, hfirst⟩
    cases before with
    | nil => exact absurd (h _ _ hdeclares) (by rw [hblank]; decide)
    | cons d front =>
      obtain ⟨rfl, hrest⟩ := declares_cons_iff.1 hdeclares
      refine ⟨front, rfl, hrest, hblank, fun front' inner' after' hdeclares' hblank' => ?_⟩
      have hle := hfirst _ _ _ (declares_cons_iff.2 ⟨rfl, hdeclares'⟩) hblank'
      exact Nat.le_of_succ_le_succ hle
  · rintro ⟨front, rfl, hdeclares, hblank, hfirst⟩
    refine ⟨declares_cons_iff.2 ⟨rfl, hdeclares⟩, hblank,
      fun before' inner' after' hdeclares' hblank' => ?_⟩
    cases before' with
    | nil => exact absurd (h _ _ hdeclares') (by rw [hblank']; decide)
    | cons d front' =>
      exact Nat.succ_le_succ (hfirst _ _ _ (declares_cons_iff.1 hdeclares').2 hblank')

/-- **The root namespace is declared at the first place where something is that is not blank.** -/
theorem ofText?_eq_some_iff {text name : Text} :
    ofText? text = some name
      ↔ ∃ before inner after, IsFirst text before inner after ∧ trim inner = name := by
  induction text with
  | nil =>
    refine iff_of_false (by simp [ofText?, allDeclared]) ?_
    rintro ⟨before, inner, after, ⟨hdeclares, -, -⟩, -⟩
    exact not_declares_nil hdeclares
  | cons c rest ih =>
    by_cases hstart : ∃ inner after, Declares (c :: rest) [] inner after ∧ isBlankText inner = false
    · obtain ⟨inner, after, hdeclares, hblank⟩ := hstart
      have hname : trim inner ≠ [] := by
        rw [Ne, trim_eq_nil_iff, hblank]
        decide
      have hdeclared := declared?_eq_some_iff.2 ⟨inner, after, hdeclares, rfl⟩
      rw [ofText?_cons, hdeclared, Option.filter_some, if_pos (by simpa using hname),
        Option.some_or, Option.some.injEq]
      constructor
      · rintro rfl
        exact ⟨[], inner, after, ⟨hdeclares, hblank, fun _ _ _ _ _ => Nat.zero_le _⟩, rfl⟩
      · rintro ⟨before, inner', after', hfirst, rfl⟩
        have hbefore : before = [] :=
          List.eq_nil_of_length_eq_zero (Nat.le_zero.1 (hfirst.first _ _ _ hdeclares hblank))
        subst hbefore
        have hdeclared' := declared?_eq_some_iff.2 ⟨inner', after', hfirst.declares, rfl⟩
        exact Option.some.inj (hdeclared.symm.trans hdeclared')
    · have hblank : ∀ inner after, Declares (c :: rest) [] inner after →
          isBlankText inner = true := fun inner after hdeclares => by
        by_contra hne
        exact hstart ⟨inner, after, hdeclares, by simpa using hne⟩
      have hnone : (declared? (c :: rest)).filter (· ≠ []) = none := by
        rw [Option.filter_eq_none_iff]
        intro found hfound
        obtain ⟨inner, after, hdeclares, rfl⟩ := declared?_eq_some_iff.1 hfound
        simpa using trim_eq_nil_iff.2 (hblank inner after hdeclares)
      rw [ofText?_cons, hnone, Option.none_or, ih]
      constructor
      · rintro ⟨front, inner, after, hfirst, hname⟩
        exact ⟨c :: front, inner, after, (isFirst_cons_iff hblank).2 ⟨front, rfl, hfirst⟩, hname⟩
      · rintro ⟨before, inner, after, hfirst, hname⟩
        obtain ⟨front, -, hrest⟩ := (isFirst_cons_iff hblank).1 hfirst
        exact ⟨front, inner, after, hrest, hname⟩

/-- Among the places where something is declared that is not blank, there is a first one. -/
theorem exists_isFirst {text before inner after : Text} (h : Declares text before inner after)
    (hblank : isBlankText inner = false) : ∃ before inner after, IsFirst text before inner after := by
  classical
  have hex : ∃ n, ∃ before inner after, Declares text before inner after ∧
      isBlankText inner = false ∧ before.length = n := ⟨_, before, inner, after, h, hblank, rfl⟩
  obtain ⟨front, name, rest, hdeclares, hname, hlength⟩ := Nat.find_spec hex
  refine ⟨front, name, rest, hdeclares, hname, fun before' inner' after' hdeclares' hblank' => ?_⟩
  rw [hlength]
  exact Nat.find_min' hex ⟨before', inner', after', hdeclares', hblank', rfl⟩

theorem ofText?_eq_none_iff {text : Text} :
    ofText? text = none ↔
      ∀ before inner after, Declares text before inner after → isBlankText inner = true := by
  constructor
  · intro h before inner after hdeclares
    by_contra hblank
    obtain ⟨front, name, rest, hfirst⟩ := exists_isFirst hdeclares (by simpa using hblank)
    exact absurd (h.symm.trans (ofText?_eq_some_iff.2 ⟨front, name, rest, hfirst, rfl⟩)) (by simp)
  · intro h
    cases hname : ofText? text with
    | none => rfl
    | some name =>
      obtain ⟨before, inner, after, hfirst, -⟩ := ofText?_eq_some_iff.1 hname
      exact absurd (h before inner after hfirst.declares) (by rw [hfirst.notBlank]; decide)

/-! ## Names -/

theorem isDeclarable_of_ofText? {text name : Text} (h : ofText? text = some name) :
    IsDeclarable name := by
  obtain ⟨before, inner, after, hfirst, rfl⟩ := ofText?_eq_some_iff.1 h
  refine ⟨?_, fun hmem => hfirst.declares.noTag (mem_of_mem_trim hmem), isTrimmed_trim inner⟩
  rw [Ne, trim_eq_nil_iff, hfirst.notBlank]
  decide

theorem IsDeclarable.not_blank {name : Text} (h : IsDeclarable name) :
    isBlankText name = false := by
  by_contra hblank
  rw [Bool.not_eq_false, ← trim_eq_nil_iff, h.trimmed.trim_eq] at hblank
  exact h.ne_nil hblank

/-- Nothing is declared further in front than the first opening tag. -/
theorem length_le_of_declares {before behind front inner after : Text}
    (h : ¬ openTag <:+: before) (hdeclares : Declares (before ++ openTag ++ behind) front inner after) :
    before.length ≤ front.length := by
  have heq := hdeclares.eq_append
  rw [List.append_assoc, List.append_assoc, List.append_assoc, List.append_assoc,
    List.append_eq_append_iff] at heq
  rcases heq with ⟨more, rfl, -⟩ | ⟨more, rfl, htags⟩
  · rw [List.length_append]
    exact Nat.le_add_right _ _
  -- The opening tag of the declaration begins in `before`, and would end there or in the other tag.
  · rw [List.append_eq_append_iff] at htags
    rcases htags with ⟨rest, rfl, -⟩ | ⟨rest, hsplit, hrest⟩
    · exact absurd (List.infix_append' front openTag rest) h
    · cases more with
      | nil => rw [List.append_nil]
      | cons c more =>
        cases rest with
        | nil => exact absurd ((List.suffix_append front _).isInfix) (by simpa [hsplit] using h)
        | cons d rest =>
          have hd : d = '<' := (List.cons.inj hrest).1.symm
          rw [openTag_eq, List.cons_append] at hsplit
          have hmem : '<' ∈ openTag.tail := by
            rw [(List.cons.inj hsplit).2, hd]
            simp
          exact absurd hmem notMem_tail_openTag

/-- **A name that is put between the tags is read back**, if no opening tag stands in front. -/
theorem ofText?_embedded {name before front back : Text} (hname : IsDeclarable name)
    (hbefore : ¬ openTag <:+: before) (hfront : isBlankText front = true)
    (hback : isBlankText back = true) (after : Text) :
    ofText? (before ++ openTag ++ (front ++ name ++ back) ++ closeTag ++ after) = some name := by
  have hnotBlank : isBlankText (front ++ name ++ back) = false := by
    by_contra hblank
    rw [Bool.not_eq_false, isBlankText, List.all_append, List.all_append, Bool.and_eq_true,
      Bool.and_eq_true] at hblank
    exact absurd hblank.1.2 (by rw [← isBlankText, hname.not_blank]; decide)
  have hblanks : ∀ {blanks : Text}, isBlankText blanks = true → '<' ∉ blanks := fun hall hmem =>
    absurd (List.all_eq_true.1 hall _ hmem) (by decide)
  have hnoTag : '<' ∉ front ++ name ++ back := by
    simp only [List.mem_append, not_or]
    exact ⟨⟨hblanks hfront, hname.noTag⟩, hblanks hback⟩
  refine ofText?_eq_some_iff.2 ⟨before, front ++ name ++ back, after,
    ⟨⟨rfl, hnoTag⟩, hnotBlank, fun front' inner' after' hdeclares _ => ?_⟩, ?_⟩
  · rw [List.append_assoc, List.append_assoc] at hdeclares
    exact length_le_of_declares hbefore hdeclares
  · rw [trim_append_append hfront hback, hname.trimmed.trim_eq]

end RootNamespace
end DocViews
