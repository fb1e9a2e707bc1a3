import DocViews.Path

/-!
# The order of paths

Steps are compared by their kinds first and names by their texts second, which makes `Path.compare`
a comparison of lists.  So it is transitive and total, and paths that are neither before nor behind
each other say the same (`Path.components_eq_of_compare`).
-/

set_option autoImplicit false

namespace DocViews

open Std

namespace Component

/-- Steps are compared by two keys. -/
theorem compare_eq_compareLex :
    Component.compare
      = compareLex (compareOn rank) (compareOn fun step => (step.name?).getD []) := by
  funext a b
  cases a <;> cases b <;> rfl

instance : TransCmp Component.compare := by
  rw [compare_eq_compareLex]
  infer_instance

instance : LawfulEqCmp Component.compare where
  eq_of_compare {a b} h := by
    cases a <;> cases b
    case name.name s t =>
      have htexts : Ord.compare s t = .eq := h
      rw [LawfulEqCmp.eq_of_compare htexts]
    all_goals first | rfl | exact absurd h (by simp [compare, rank])

end Component

namespace Path

instance : TransCmp Path.compare where
  eq_swap := by
    intro a b
    rw [Path.compare, Path.compare]
    exact OrientedCmp.eq_swap
  isLE_trans := by
    intro a b c
    rw [Path.compare, Path.compare, Path.compare]
    exact TransCmp.isLE_trans

theorem components_eq_of_compare {a b : Path} (h : a.compare b = .eq) :
    a.components = b.components :=
  LawfulEqCmp.eq_of_compare h

/-- Of two paths that say different things, one is before the other one. -/
theorem compare_eq_lt_of_isLE {a b : Path} (h : (a.compare b).isLE = true)
    (hne : a.components ≠ b.components) : a.compare b = .lt := by
  cases hcompare : a.compare b with
  | lt => rfl
  | eq => exact absurd (components_eq_of_compare hcompare) hne
  | gt => exact absurd h (by rw [hcompare]; decide)

end Path
end DocViews
