import DocViews.Text.Digits

/-!
# Numbered names

Documents and folders are sorted by hand: a name may open with a number and an underscore, and the
rest is the name proper.

* `2_Setup` has the ordinal 2 and the name `Setup`;
* `3_` has the ordinal 3 and an empty name;
* `_Index`, `v2_Notes`, `-1_x` and `42` have no ordinal and are names as they stand.

A number too large for an order is no ordinal, so the name is kept whole.
-/

set_option autoImplicit false

namespace DocViews

/-- The largest order, `2³¹ - 1`. -/
def maxOrder : Nat := 2147483647

/-- A file or folder name, taken apart. -/
structure NumberedName where
  ordinal : Option Nat
  name : Text
deriving DecidableEq, Repr

namespace NumberedName

/-- Reads the number in front of the first underscore. -/
def ofText (text : Text) : NumberedName :=
  match text.splitOnce? '_' with
  | some (digits, name) =>
    if Digits.isNumeral digits && Digits.value digits ≤ maxOrder then
      ⟨some (Digits.value digits), name⟩
    else ⟨none, text⟩
  | none => ⟨none, text⟩

end NumberedName
end DocViews
