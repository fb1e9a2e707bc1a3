import DocViews.Text.Basic
import Mathlib.Data.List.Infix

/-!
# The pieces of a cut

A join undoes a cut (`List.intercalate_splitOn`), and pieces without the separator come back from
their join (`List.splitOn_intercalate`).  Here is what the pieces are like: a piece is a part of the
text, and holds no separator (`infix_of_mem_splitOn`, `notMem_of_mem_splitOn`).
-/

set_option autoImplicit false

namespace DocViews
namespace Text

variable {separator : Char}

/-! ## Cuts -/

/-- Only the first piece of a cut changes when a character is put in front. -/
theorem splitOn_cons_of_ne {c : Char} {rest piece : Text} {more : List Text}
    (hc : c ≠ separator) (hs : List.splitOn separator rest = piece :: more) :
    List.splitOn separator (c :: rest) = (c :: piece) :: more := by
  rw [List.splitOn_cons_eq_if_modifyHead, if_neg (by simpa using hc), hs, List.modifyHead_cons]

theorem splitOn_cons_self (separator : Char) (rest : Text) :
    List.splitOn separator (separator :: rest) = [] :: List.splitOn separator rest :=
  List.splitOn_append_cons_self_of_not_mem List.not_mem_nil rest

/-- Text without a separator in front of a cut belongs to its first piece. -/
theorem splitOn_append_left {start text first : Text} {rest : List Text} (h : separator ∉ start)
    (hs : List.splitOn separator text = first :: rest) :
    List.splitOn separator (start ++ text) = (start ++ first) :: rest := by
  induction start with
  | nil => exact hs
  | cons c more ih =>
    rw [List.mem_cons, not_or] at h
    exact splitOn_cons_of_ne (Ne.symm h.1) (ih h.2)

theorem splitOnce?_append {before after : Text} (h : separator ∉ before) :
    splitOnce? separator (before ++ separator :: after) = some (before, after) := by
  induction before with
  | nil => simp [splitOnce?]
  | cons c rest ih =>
    rw [List.mem_cons, not_or] at h
    rw [List.cons_append, splitOnce?, if_neg (Ne.symm h.1), ih h.2, Option.map_some]

theorem splitOnce?_of_notMem {text : Text} (h : separator ∉ text) :
    splitOnce? separator text = none := by
  induction text with
  | nil => rfl
  | cons c rest ih =>
    rw [List.mem_cons, not_or] at h
    rw [splitOnce?, if_neg (Ne.symm h.1), ih h.2, Option.map_none]

/-- **The cut is made at the first separator.** -/
theorem splitOnce?_eq_some_iff {text before after : Text} :
    splitOnce? separator text = some (before, after)
      ↔ text = before ++ separator :: after ∧ separator ∉ before := by
  constructor
  · intro h
    induction text generalizing before with
    | nil => exact absurd h (by simp [splitOnce?])
    | cons c rest ih =>
      rw [splitOnce?] at h
      split at h
      · next hc =>
        obtain ⟨rfl, rfl⟩ := Prod.mk.inj (Option.some.inj h)
        exact ⟨by rw [hc, List.nil_append], List.not_mem_nil⟩
      · next hc =>
        obtain ⟨⟨front, back⟩, hcut, heq⟩ := Option.map_eq_some_iff.1 h
        obtain ⟨rfl, rfl⟩ := Prod.mk.inj heq
        obtain ⟨rfl, hfront⟩ := ih hcut
        exact ⟨rfl, List.not_mem_cons_of_ne_of_not_mem (Ne.symm hc) hfront⟩
  · rintro ⟨rfl, h⟩
    exact splitOnce?_append h

/-- A text is the two halves of its cut, with the separator between them. -/
theorem eq_of_splitOnce?_eq_some {text before after : Text}
    (h : splitOnce? separator text = some (before, after)) :
    text = before ++ separator :: after :=
  (splitOnce?_eq_some_iff.1 h).1

theorem isPrefixOf?_append (start rest : Text) :
    List.isPrefixOf? start (start ++ rest) = some rest :=
  List.isPrefixOf?_eq_some_iff_append_eq.2 rfl

/-! ## Joins -/

/-- Two joins are one, with what stands between pieces between them. -/
theorem intercalate_append {between : Text} {before after : List Text} (hb : before ≠ [])
    (ha : after ≠ []) :
    List.intercalate between (before ++ after)
      = List.intercalate between before ++ between ++ List.intercalate between after := by
  induction before with
  | nil => exact absurd rfl hb
  | cons piece more ih =>
    by_cases hmore : more = []
    · rw [hmore, List.singleton_append, List.intercalate_cons_of_ne_nil ha,
        List.intercalate_singleton]
    · have hboth : more ++ after ≠ [] := List.append_ne_nil_of_left_ne_nil hmore _
      rw [List.cons_append, List.intercalate_cons_of_ne_nil hboth,
        List.intercalate_cons_of_ne_nil hmore, ih hmore]
      simp only [List.append_assoc]

/-- A join of pieces of which none is empty is empty only if there are no pieces. -/
theorem intercalate_eq_nil_iff {between : Text} {pieces : List Text} (h : [] ∉ pieces) :
    List.intercalate between pieces = [] ↔ pieces = [] := by
  cases pieces with
  | nil => exact iff_of_true rfl rfl
  | cons piece more =>
    have hpiece : piece ≠ [] := fun hnil => h (hnil ▸ List.mem_cons_self)
    refine iff_of_false ?_ (List.cons_ne_nil _ _)
    by_cases hmore : more = []
    · rwa [hmore, List.intercalate_singleton]
    · rw [List.intercalate_cons_of_ne_nil hmore, List.append_assoc]
      exact List.append_ne_nil_of_left_ne_nil hpiece _

theorem intercalate_concat {between : Text} {pieces : List Text} (hne : pieces ≠ [])
    (last : Text) :
    List.intercalate between (pieces ++ [last])
      = List.intercalate between pieces ++ between ++ last := by
  rw [intercalate_append hne (List.cons_ne_nil last []), List.intercalate_singleton]

/-- A join holds the characters of its pieces and of what stands between them. -/
theorem mem_of_mem_intercalate {between : Text} {pieces : List Text} {c : Char}
    (h : c ∈ List.intercalate between pieces) : c ∈ between ∨ ∃ piece ∈ pieces, c ∈ piece := by
  induction pieces with
  | nil => exact absurd h List.not_mem_nil
  | cons piece more ih =>
    by_cases hmore : more = []
    · rw [hmore, List.intercalate_singleton] at h
      exact Or.inr ⟨piece, List.mem_cons_self, h⟩
    · rw [List.intercalate_cons_of_ne_nil hmore, List.mem_append, List.mem_append] at h
      rcases h with (h | h) | h
      · exact Or.inr ⟨piece, List.mem_cons_self, h⟩
      · exact Or.inl h
      · rcases ih h with h | ⟨p, hp, hc⟩
        · exact Or.inl h
        · exact Or.inr ⟨p, List.mem_cons_of_mem _ hp, hc⟩

/-- Fewer pieces make a join with less in it. -/
theorem intercalate_sublist {between : Text} {fewer lines : List Text} (h : fewer.Sublist lines) :
    (List.intercalate between fewer).Sublist (List.intercalate between lines) := by
  induction h with
  | slnil => exact List.Sublist.refl _
  | @cons fewer lines line h ih =>
    by_cases hlines : lines = []
    · subst hlines
      rw [List.sublist_nil.1 h]
      exact List.nil_sublist _
    · rw [List.intercalate_cons_of_ne_nil hlines]
      exact ih.trans (List.sublist_append_right _ _)
  | @cons_cons fewer lines line h ih =>
    by_cases hfewer : fewer = []
    · rw [hfewer, List.intercalate_singleton]
      by_cases hlines : lines = []
      · rw [hlines, List.intercalate_singleton]
      · rw [List.intercalate_cons_of_ne_nil hlines, List.append_assoc]
        exact List.sublist_append_left _ _
    · have hlines : lines ≠ [] := fun hnil => hfewer (List.sublist_nil.1 (hnil ▸ h))
      rw [List.intercalate_cons_of_ne_nil hfewer, List.intercalate_cons_of_ne_nil hlines]
      exact ih.append_left _

/-- A join holds each of its pieces as a part. -/
theorem infix_intercalate_of_mem {between piece : Text} {pieces : List Text}
    (h : piece ∈ pieces) : piece <:+: List.intercalate between pieces := by
  induction pieces with
  | nil => exact absurd h List.not_mem_nil
  | cons first more ih =>
    by_cases hmore : more = []
    · rw [hmore] at h ⊢
      rw [List.mem_singleton.1 h, List.intercalate_singleton]
    · rw [List.intercalate_cons_of_ne_nil hmore]
      rcases List.mem_cons.1 h with rfl | h
      · rw [List.append_assoc]
        exact (List.prefix_append _ _).isInfix
      · exact (ih h).trans (List.suffix_append _ _).isInfix

/-! ## Pieces -/

theorem infix_of_mem_splitOn {text piece : Text} (h : piece ∈ List.splitOn separator text) :
    piece <:+: text := by
  have hjoin : piece <:+: List.intercalate [separator] (List.splitOn separator text) :=
    infix_intercalate_of_mem h
  rwa [List.intercalate_splitOn] at hjoin

/-- Text without a separator is inside one of the pieces. -/
theorem exists_mem_splitOn_of_infix {text part : Text} (h : part <:+: text)
    (hseparator : separator ∉ part) : ∃ piece ∈ List.splitOn separator text, part <:+: piece := by
  obtain ⟨front, back, rfl⟩ := h
  induction front with
  | nil =>
    obtain ⟨first, rest, hback⟩ := List.exists_cons_of_ne_nil (List.splitOn_ne_nil separator back)
    rw [List.nil_append, splitOn_append_left hseparator hback]
    exact ⟨_, List.mem_cons_self, List.infix_append' [] part first⟩
  | cons c front ih =>
    obtain ⟨piece, hpiece, hinfix⟩ := ih
    rw [List.cons_append, List.cons_append]
    by_cases hc : c = separator
    · subst hc
      rw [splitOn_cons_self]
      exact ⟨piece, List.mem_cons_of_mem _ hpiece, hinfix⟩
    · obtain ⟨first, rest, hsplit⟩ := List.exists_cons_of_ne_nil
        (List.splitOn_ne_nil separator (front ++ part ++ back))
      rw [splitOn_cons_of_ne hc hsplit]
      rw [hsplit] at hpiece
      rcases List.mem_cons.1 hpiece with rfl | hrest
      · exact ⟨_, List.mem_cons_self, hinfix.trans (List.suffix_cons c piece).isInfix⟩
      · exact ⟨piece, List.mem_cons_of_mem _ hrest, hinfix⟩

theorem notMem_of_mem_splitOn {text piece : Text} (h : piece ∈ List.splitOn separator text) :
    separator ∉ piece := by
  induction text generalizing piece with
  | nil => rw [List.mem_singleton.1 h]; exact List.not_mem_nil
  | cons c rest ih =>
    by_cases hc : c = separator
    · subst hc
      rw [splitOn_cons_self, List.mem_cons] at h
      rcases h with rfl | h
      · exact List.not_mem_nil
      · exact ih h
    · obtain ⟨first, more, hs⟩ := List.exists_cons_of_ne_nil (List.splitOn_ne_nil separator rest)
      rw [hs] at ih
      rw [splitOn_cons_of_ne hc hs, List.mem_cons] at h
      rcases h with rfl | h
      · exact List.not_mem_cons_of_ne_of_not_mem (Ne.symm hc) (ih List.mem_cons_self)
      · exact ih (List.mem_cons_of_mem _ h)

end Text
end DocViews
