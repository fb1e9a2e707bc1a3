import DocViews.Proofs.Naming.Ordinal
import DocViews.Proofs.Text.Numbers
import Mathlib.Data.Nat.Digits.Defs

/-!
# Reading and stripping the numbers of names

`IsNumbered` says which names are numbered, and with which number: digits, of which zeros in front
count for nothing, then an underscore, and the number is an order.  These names are read with their
number, and every other name is read as it stands (`ofText_exact`).

Stripping takes one number off a name, and what it leaves is a name like any other.  So a name with
two numbers in front is stripped of the second one when it is stripped again: how often stripping
changes a name is how many numbers it has in front (`strip_iterate_eq_iff`), and stripping twice is
stripping once exactly for the names with less than two of them (`strip_strip_iff`).
-/

set_option autoImplicit false

namespace DocViews

namespace Digits

theorem value_concat (digits : Text) (c : Char) :
    value (digits ++ [c]) = 10 * value digits + digitValue c := by
  rw [value, value, List.foldl_append, List.foldl_cons, List.foldl_nil]

/-- The number that a text of digits stands for is the sum of its digits by their places. -/
theorem value_eq_ofDigits (digits : Text) :
    value digits = Nat.ofDigits 10 (digits.reverse.map digitValue) := by
  induction digits using List.reverseRecOn with
  | nil => rfl
  | append_singleton digits c ih =>
    rw [value_concat, ih, List.reverse_concat, List.map_cons, Nat.ofDigits_cons, Nat.add_comm]

end Digits

namespace NumberedName

variable {name rest : Text} {n : Nat}

/-! ## Numbered names -/

/-- A name that is a number, an underscore and a rest.  The number is written in ASCII digits, with
any count of zeros in front, and is at most `2³¹ - 1`. -/
def IsNumbered (name : Text) (n : Nat) (rest : Text) : Prop :=
  ∃ digits, name = digits ++ '_' :: rest ∧ digits ≠ [] ∧ (∀ c ∈ digits, c.isDigit = true) ∧
    Nat.ofDigits 10 (digits.reverse.map Digits.digitValue) = n ∧ n ≤ 2147483647

theorem isNumbered_iff :
    IsNumbered name n rest
      ↔ ∃ digits, name = digits ++ '_' :: rest ∧ IsOrdinal digits ∧ Digits.value digits = n := by
  refine exists_congr fun digits => and_congr_right fun _ => ?_
  rw [← Digits.value_eq_ofDigits]
  constructor
  · rintro ⟨hne, hdigits, rfl, hsmall⟩
    exact ⟨⟨hne, hdigits, hsmall⟩, rfl⟩
  · rintro ⟨hordinal, rfl⟩
    exact ⟨hordinal.nonempty, hordinal.isDigit, rfl, hordinal.small⟩

theorem ofText_eq_iff : ofText name = ⟨some n, rest⟩ ↔ IsNumbered name n rest := by
  rw [isNumbered_iff]
  constructor
  · intro h
    obtain ⟨digits, behind, rfl, hordinal, hn⟩ := hasOrdinal_iff.1 (congrArg ordinal h)
    rw [ofText_append hordinal] at h
    obtain rfl : behind = rest := congrArg NumberedName.name h
    exact ⟨digits, rfl, hordinal, hn⟩
  · rintro ⟨digits, rfl, hordinal, rfl⟩
    exact ofText_append hordinal rest

/-- A name that is read without an ordinal is read as it stands. -/
theorem name_of_ordinal_eq_none (h : (ofText name).ordinal = none) : ofText name = ⟨none, name⟩ := by
  rw [ofText] at h ⊢
  split
  · next digits behind hcut =>
    split
    · next hordinal => simp [hcut, hordinal] at h
    · rfl
  · rfl

theorem ordinal_eq_none_iff : (ofText name).ordinal = none ↔ ∀ n rest, ¬ IsNumbered name n rest := by
  constructor
  · intro h n rest hnumbered
    rw [ofText_eq_iff.2 hnumbered] at h
    exact absurd h (by simp)
  · intro h
    cases hread : ofText name with
    | mk ordinal rest =>
      cases ordinal with
      | none => rfl
      | some n => exact absurd (ofText_eq_iff.1 hread) (h n rest)

theorem isNumbered_ofNat (h : n ≤ maxOrder) (rest : Text) :
    IsNumbered (Digits.ofNat n ++ '_' :: rest) n rest :=
  isNumbered_iff.2 ⟨Digits.ofNat n, rfl,
    ⟨Nat.toDigits_ne_nil, fun _ => Digits.isDigit_of_mem_ofNat, (Digits.value_ofNat n).symm ▸ h⟩,
    Digits.value_ofNat n⟩

/-- **Names are read by their grammar.**  A name is read with an ordinal exactly when it is numbered,
and every other name is read without one and as it stands.  In particular each order is read back
from its numeral. -/
theorem ofText_exact (name : Text) :
    (∀ n rest, ofText name = ⟨some n, rest⟩ ↔ IsNumbered name n rest) ∧
      (ofText name = ⟨none, name⟩ ↔ ∀ n rest, ¬ IsNumbered name n rest) ∧
      ∀ n ≤ 2147483647, ∀ rest, ofText (Digits.ofNat n ++ '_' :: rest) = ⟨some n, rest⟩ := by
  refine ⟨fun n rest => ofText_eq_iff, ?_, fun n hn rest => ?_⟩
  · rw [← ordinal_eq_none_iff]
    exact ⟨congrArg ordinal, name_of_ordinal_eq_none⟩
  · exact ofText_eq_iff.2 (isNumbered_ofNat hn rest)

/-- Zeros in front, the largest order, the number behind it, and a name with two numbers. -/
theorem ofText_exact_zeros :
    (ofText "0002147483647_v2_x".toList = ⟨some 2147483647, "v2_x".toList⟩ ∧
      ofText "2147483648_v2".toList = ⟨none, "2147483648_v2".toList⟩) ∧
    (2147483647 ≤ 2147483647 ∧
      ofText (Digits.ofNat 2147483647 ++ '_' :: "1_x".toList)
        = ⟨some 2147483647, "1_x".toList⟩) := by
  have hnumbered : IsNumbered "0002147483647_v2_x".toList 2147483647 "v2_x".toList :=
    ⟨"0002147483647".toList, by decide, by decide, by simp, by decide +kernel, by decide⟩
  refine ⟨⟨((ofText_exact _).1 _ _).2 hnumbered, ?_⟩, Nat.le_refl _,
    (ofText_exact []).2.2 _ (Nat.le_refl _) _⟩
  decide +kernel

/-! ## Stripping -/

/-- What is left of a name without its number. -/
def strip (name : Text) : Text :=
  (ofText name).name

/-- A name with at least so many numbers in front. -/
inductive NumberedTimes : Nat → Text → Prop
  | zero (name : Text) : NumberedTimes 0 name
  | succ {k n : Nat} {name rest : Text} (hname : IsNumbered name n rest)
    (hrest : NumberedTimes k rest) : NumberedTimes (k + 1) name

theorem strip_of_isNumbered (h : IsNumbered name n rest) : strip name = rest := by
  rw [strip, ofText_eq_iff.2 h]

theorem strip_of_ordinal_eq_none (h : (ofText name).ordinal = none) : strip name = name := by
  rw [strip, name_of_ordinal_eq_none h]

/-- A number that is taken off a name makes it shorter. -/
theorem length_lt_of_isNumbered (h : IsNumbered name n rest) : rest.length < name.length := by
  obtain ⟨digits, rfl, -⟩ := h
  rw [List.length_append, List.length_cons]
  omega

theorem numberedTimes_one_iff : NumberedTimes 1 name ↔ (ofText name).ordinal ≠ none := by
  rw [Ne, ordinal_eq_none_iff]
  constructor
  · rintro (_ | ⟨hname, -⟩) hnone
    exact hnone _ _ hname
  · intro h
    simp only [not_forall, not_not] at h
    obtain ⟨n, rest, hname⟩ := h
    exact .succ hname (.zero rest)

theorem strip_eq_self_iff : strip name = name ↔ ¬ NumberedTimes 1 name := by
  rw [numberedTimes_one_iff, not_not]
  constructor
  · intro h
    rw [ordinal_eq_none_iff]
    intro n rest hname
    rw [strip_of_isNumbered hname] at h
    exact absurd (length_lt_of_isNumbered hname) (h ▸ Nat.lt_irrefl _)
  · exact strip_of_ordinal_eq_none

/-- Stripping takes off one number, if there is one. -/
theorem numberedTimes_succ_iff {k : Nat} :
    NumberedTimes (k + 1) name ↔ (ofText name).ordinal ≠ none ∧ NumberedTimes k (strip name) := by
  constructor
  · rintro (_ | ⟨hname, hrest⟩)
    refine ⟨numberedTimes_one_iff.1 (.succ hname (.zero _)), ?_⟩
    rwa [strip_of_isNumbered hname]
  · rintro ⟨hordinal, hrest⟩
    obtain _ | ⟨hname, -⟩ := numberedTimes_one_iff.2 hordinal
    rw [strip_of_isNumbered hname] at hrest
    exact .succ hname hrest

instance decidableNumberedTimes : (k : Nat) → (name : Text) → Decidable (NumberedTimes k name)
  | 0, name => .isTrue (.zero name)
  | k + 1, name =>
    have := decidableNumberedTimes k (strip name)
    decidable_of_iff' _ numberedTimes_succ_iff

/-- **Stripping changes a name as often as it has numbers in front.**  The induction is on the
rounds, and the first of them is made before the others. -/
theorem strip_iterate_eq_iff (k : Nat) (name : Text) :
    strip^[k + 1] name = strip^[k] name ↔ ¬ NumberedTimes (k + 1) name := by
  induction k generalizing name with
  | zero => exact strip_eq_self_iff
  | succ k ih =>
    have hfirst : strip^[k + 1] (strip name) = strip^[k] (strip name)
        ↔ ¬ NumberedTimes (k + 1) (strip name) := ih (strip name)
    rw [Function.iterate_succ_apply strip (k + 1), Function.iterate_succ_apply strip k name, hfirst,
      @numberedTimes_succ_iff name (k + 1)]
    refine not_congr (and_iff_right_of_imp fun hrest hnone => ?_).symm
    -- a name without a number is stripped of nothing, and has no numbers in front
    rw [strip_of_ordinal_eq_none hnone, numberedTimes_succ_iff] at hrest
    exact hrest.1 hnone

/-- **Stripping a name twice is stripping it once** exactly when it has less than two numbers in
front; and the name without its number has no ordinal under the same condition. -/
theorem strip_strip_iff (name : Text) :
    (strip (strip name) = strip name ↔ ¬ NumberedTimes 2 name) ∧
      ((ofText name).ordinal ≠ none →
        ((ofText (strip name)).ordinal = none ↔ ¬ NumberedTimes 2 name)) := by
  refine ⟨strip_iterate_eq_iff 1 name, fun hordinal => ?_⟩
  rw [numberedTimes_succ_iff, numberedTimes_one_iff, and_iff_right hordinal, not_not]

/-- A name with one number, with an underscore and digits behind it. -/
theorem strip_strip_iff_getting :
    (ofText "007_Getting_2".toList).ordinal ≠ none ∧
      strip (strip "007_Getting_2".toList) = strip "007_Getting_2".toList ∧
      (ofText (strip "007_Getting_2".toList)).ordinal = none := by
  have hordinal : (ofText "007_Getting_2".toList).ordinal ≠ none := by decide +kernel
  have hnumbers : ¬ NumberedTimes 2 "007_Getting_2".toList := by decide +kernel
  obtain ⟨hname, hagain⟩ := strip_strip_iff "007_Getting_2".toList
  exact ⟨hordinal, hname.2 hnumbers, (hagain hordinal).2 hnumbers⟩

/-- What is left of a name with two numbers has a number to take off. -/
theorem strip_strip_ne :
    strip (strip "1_2_Setup".toList) ≠ strip "1_2_Setup".toList ∧
      (ofText "1_2_Setup".toList).ordinal = some 1 ∧
      (ofText (strip "1_2_Setup".toList)).ordinal = some 2 := by
  decide +kernel

end NumberedName
end DocViews
