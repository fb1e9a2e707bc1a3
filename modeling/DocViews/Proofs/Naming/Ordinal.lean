import DocViews.Naming.Ordinal
import DocViews.Proofs.Text.Split

/-!
# What the numbers in front of names are

A name has an ordinal exactly when it opens with digits and an underscore, and the digits are a
number that is not too large (`NumberedName.hasOrdinal_iff`).  The number is all that is read of the
digits, and the rest of the name is read as if there were none: names that differ in their numbers
only are read as the same name (`Renumbers.name_eq`).
-/

set_option autoImplicit false

namespace DocViews
namespace NumberedName

/-! ## Ordinals -/

/-- Digits that stand for an order; zeros in front are allowed. -/
structure IsOrdinal (digits : Text) : Prop where
  nonempty : digits ≠ []
  isDigit : ∀ c ∈ digits, c.isDigit = true
  small : Digits.value digits ≤ maxOrder

/-- A name that opens with the digits of a number and an underscore. -/
def HasOrdinal (name : Text) (n : Nat) : Prop :=
  ∃ digits rest, name = digits ++ '_' :: rest ∧ IsOrdinal digits ∧ Digits.value digits = n

theorem isOrdinal_iff {digits : Text} :
    IsOrdinal digits ↔ (Digits.isNumeral digits && Digits.value digits ≤ maxOrder) = true := by
  rw [Bool.and_eq_true, Digits.isNumeral, Bool.and_eq_true, List.all_eq_true, decide_eq_true_iff]
  constructor
  · exact fun h => ⟨⟨by simpa using h.nonempty, h.isDigit⟩, h.small⟩
  · exact fun h => ⟨by simpa using h.1.1, h.1.2, h.2⟩

instance (digits : Text) : Decidable (IsOrdinal digits) :=
  decidable_of_iff _ isOrdinal_iff.symm

theorem IsOrdinal.notMem {digits : Text} (h : IsOrdinal digits) {c : Char}
    (hc : c.isDigit = false) : c ∉ digits := by
  intro hmem
  rw [h.isDigit c hmem] at hc
  exact absurd hc (by simp)

theorem ofText_append {digits : Text} (h : IsOrdinal digits) (rest : Text) :
    ofText (digits ++ '_' :: rest) = ⟨some (Digits.value digits), rest⟩ := by
  rw [ofText, Text.splitOnce?_append (h.notMem (by decide))]
  exact if_pos (isOrdinal_iff.1 h)

/-- **A name is read with an ordinal exactly when it has one.** -/
theorem hasOrdinal_iff {name : Text} {n : Nat} :
    (ofText name).ordinal = some n ↔ HasOrdinal name n := by
  constructor
  · intro h
    rw [ofText] at h
    split at h
    · next digits rest hcut =>
      split at h
      · next hordinal =>
        exact ⟨digits, rest, Text.eq_of_splitOnce?_eq_some hcut, isOrdinal_iff.2 hordinal,
          Option.some.inj h⟩
      · exact absurd h (by simp)
    · exact absurd h (by simp)
  · rintro ⟨digits, rest, rfl, hordinal, rfl⟩
    rw [ofText_append hordinal]

/-! ## Other numbers -/

/-- A name, and the same name with another number, if it has one. -/
inductive Renumbers : Text → Text → Prop
  | kept (name : Text) : Renumbers name name
  | changed {old new : Text} (rest : Text) (hold : IsOrdinal old) (hnew : IsOrdinal new) :
    Renumbers (old ++ '_' :: rest) (new ++ '_' :: rest)

namespace Renumbers

variable {name name' : Text}

theorem name_eq (h : Renumbers name name') : (ofText name').name = (ofText name).name := by
  cases h with
  | kept => rfl
  | changed rest hold hnew => rw [ofText_append hold, ofText_append hnew]

end Renumbers

end NumberedName
end DocViews
