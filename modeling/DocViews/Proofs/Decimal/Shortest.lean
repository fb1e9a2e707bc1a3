import DocViews.Decimal.Shortest
import DocViews.Proofs.Decimal.Rounding

/-!
# The shortest decimal is rounded back

The search for the shortest decimal asks of each grid for a point that rounds to the value, by the
test that `RoundsTo` states (`roundsTo_iff`).  The grids get finer, and one that is finer than the
quarters of the last place has such a point, so the search ends with one (`roundsTo_shortest`).
Therefore a decimal of the worth of the shortest one is rounded to the value that it was made of
(`nearest_of_worth_eq`).

What rounds to a value is an interval with the value in it, so a grid with any point there has one of
the two next to the value.  A grid is passed only if it has none, and no decimal of a coarser grid
rounds to the value (`exponent_le_of_roundsTo`).
-/

set_option autoImplicit false

namespace DocViews

namespace Decimal

open Binary64 (power power_pos power_div_power IsNormal RoundsTo quartersBelow)

variable {a : Decimal} {mantissa number : Nat} {exponent grid : Int}

/-- The rational number that a decimal stands for. -/
def worth (a : Decimal) : ℚ :=
  a.digits * 10 ^ a.exponent

/-! ## The test -/

theorem compareBinary_eq (a : Decimal) (number : Nat) (exponent : Int) :
    a.compareBinary number exponent = cmp (a.worth / 2 ^ exponent) number := by
  have hten : (power 10 a.exponent : ℚ) / power 10 (-a.exponent) = 10 ^ a.exponent :=
    power_div_power 10 a.exponent
  have htwo : (power 2 exponent : ℚ) / power 2 (-exponent) = 2 ^ exponent :=
    power_div_power 2 exponent
  have hten' : (0 : ℚ) < power 10 (-a.exponent) := by exact_mod_cast power_pos (by decide) _
  have htwo' : (0 : ℚ) < power 2 (-exponent) := by exact_mod_cast power_pos (by decide) _
  have htwo'' : (0 : ℚ) < power 2 exponent := by exact_mod_cast power_pos (by decide) _
  have hleft : ((a.digits * power 10 a.exponent * power 2 (-exponent) : Nat) : ℚ) =
      a.worth / 2 ^ exponent * (power 2 exponent * power 10 (-a.exponent)) := by
    rw [worth, ← hten, ← htwo]
    push_cast
    field_simp
  have hright : ((number * power 2 exponent * power 10 (-a.exponent) : Nat) : ℚ) =
      number * (power 2 exponent * power 10 (-a.exponent)) := by
    push_cast
    ring
  rw [compareBinary, ← cmp_eq_compare, ← (Nat.strictMono_cast (α := ℚ)).cmp_map_eq, hleft, hright,
    cmp_mul_pos_right (mul_pos htwo'' hten')]

theorem compareBinary_gt_iff :
    a.compareBinary number exponent = .gt ↔ (number : ℚ) < a.worth / 2 ^ exponent := by
  rw [compareBinary_eq, cmp_eq_gt_iff]

theorem compareBinary_lt_iff :
    a.compareBinary number exponent = .lt ↔ a.worth / 2 ^ exponent < number := by
  rw [compareBinary_eq, cmp_eq_lt_iff]

theorem compareBinary_eq_iff :
    a.compareBinary number exponent = .eq ↔ a.worth / 2 ^ exponent = number := by
  rw [compareBinary_eq, cmp_eq_eq_iff]

/-- The test that the search makes is the one that says what rounds to a value. -/
theorem roundsTo_iff (hmantissa : mantissa ≠ 0) :
    a.roundsTo mantissa exponent = true ↔ RoundsTo a.worth mantissa exponent := by
  have hlow : (if 2 * mantissa = Binary64.mantissaBound ∧ Binary64.leastExponent < exponent
      then 4 * mantissa - 1 else 4 * mantissa - 2) =
      4 * mantissa - quartersBelow mantissa exponent := by
    rw [quartersBelow]
    split <;> rfl
  have hsub : ((4 * mantissa - quartersBelow mantissa exponent : Nat) : ℚ) =
      4 * mantissa - quartersBelow mantissa exponent := by
    rw [Nat.cast_sub (by have := Binary64.quartersBelow_le mantissa exponent; omega)]
    push_cast
    rfl
  have hadd : ((4 * mantissa + 2 : Nat) : ℚ) = 4 * mantissa + 2 := by push_cast; rfl
  simp only [roundsTo, Bool.and_eq_true, Bool.or_eq_true, decide_eq_true_eq, compareBinary_gt_iff,
    compareBinary_lt_iff, compareBinary_eq_iff, hlow, hsub, hadd]
  constructor
  · rintro ⟨hdown, hup⟩
    refine ⟨?_, ?_, ?_⟩
    · rcases hdown with hlt | ⟨-, heq⟩ <;> linarith
    · rcases hup with hlt | ⟨-, heq⟩ <;> linarith
    · rintro (hedge | hedge)
      · exact (hdown.resolve_left fun hlt => by linarith).1
      · exact (hup.resolve_left fun hlt => by linarith).1
  · rintro ⟨hdown, hup, heven⟩
    constructor
    · rcases hdown.lt_or_eq with hlt | heq
      · exact .inl (by linarith)
      · exact .inr ⟨heven (.inl heq.symm), by linarith⟩
    · rcases hup.lt_or_eq with hlt | heq
      · exact .inl hlt
      · exact .inr ⟨heven (.inr heq), heq⟩

/-! ## The search -/

/-- Whatever stands for a value on a grid rounds to it. -/
theorem roundsTo_of_onGrid? (h : onGrid? mantissa exponent grid = some a) :
    a.roundsTo mantissa exponent = true := by
  rw [onGrid?] at h
  split at h <;> rename_i hbelow habove
  · split at h
    all_goals cases h; assumption
  all_goals cases h
  · exact hbelow
  · exact habove

/-- A value, counted in points of a grid. -/
theorem div_mul_grid (mantissa : Nat) (exponent grid : Int) :
    ((mantissa * power 2 exponent * power 10 (-grid) : Nat) : ℚ) /
      ((power 2 (-exponent) * power 10 grid : Nat) : ℚ) * 10 ^ grid = mantissa * 2 ^ exponent := by
  have hten : (power 10 grid : ℚ) / power 10 (-grid) = 10 ^ grid := power_div_power 10 grid
  have htwo : (power 2 exponent : ℚ) / power 2 (-exponent) = 2 ^ exponent :=
    power_div_power 2 exponent
  have hdown : (power 10 (-grid) : ℚ) ≠ 0 := by exact_mod_cast (power_pos (by decide) _).ne'
  have hup : (power 10 grid : ℚ) ≠ 0 := by exact_mod_cast (power_pos (by decide) _).ne'
  rw [← hten, ← htwo]
  push_cast
  field_simp

/-- A point less than a quarter of the last place below a value rounds to it. -/
theorem roundsTo_of_close (hmantissa : mantissa ≠ 0) (hle : a.worth ≤ mantissa * 2 ^ exponent)
    (hlt : mantissa * 2 ^ exponent < a.worth + 2 ^ (exponent - 2)) :
    a.roundsTo mantissa exponent = true := by
  have hpos : (0 : ℚ) < 2 ^ (exponent - 2) := by positivity
  rw [Binary64.two_zpow_eq exponent, ← mul_assoc, mul_comm (mantissa : ℚ)] at hle hlt
  have hhigh : a.worth / 2 ^ (exponent - 2) ≤ 4 * mantissa := (div_le_iff₀ hpos).2 hle
  have hlow : (4 * mantissa : ℚ) < a.worth / 2 ^ (exponent - 2) + 1 := by
    rwa [← div_add_same hpos.ne', lt_div_iff₀ hpos]
  have hquarters : (1 : ℚ) ≤ quartersBelow mantissa exponent := by
    exact_mod_cast Binary64.one_le_quartersBelow mantissa exponent
  refine (roundsTo_iff hmantissa).2 ⟨by linarith, by linarith, ?_⟩
  rintro (hedge | hedge) <;> linarith

/-- A value lies between two neighbours on a grid, and either of them stands for it if it rounds to
it. -/
theorem exists_neighbours (mantissa : Nat) (exponent grid : Int) :
    ∃ floor : Nat, (Decimal.mk floor grid).worth ≤ mantissa * 2 ^ exponent ∧
      mantissa * 2 ^ exponent < (Decimal.mk (floor + 1) grid).worth ∧
      ((Decimal.mk floor grid).roundsTo mantissa exponent = true ∨
        (Decimal.mk (floor + 1) grid).roundsTo mantissa exponent = true →
          (onGrid? mantissa exponent grid).isSome = true) := by
  have hpos : 0 < power 2 (-exponent) * power 10 grid :=
    Nat.mul_pos (power_pos (by decide) _) (power_pos (by decide) _)
  rw [onGrid?, ← div_mul_grid mantissa exponent grid]
  generalize mantissa * power 2 exponent * power 10 (-grid) = numerator
  generalize power 2 (-exponent) * power 10 grid = denominator at *
  refine ⟨numerator / denominator, ?_, ?_, ?_⟩
  · rw [worth]
    gcongr
    exact Nat.cast_div_le
  · rw [worth]
    gcongr
    rw [div_lt_iff₀' (by exact_mod_cast hpos)]
    exact_mod_cast Nat.lt_mul_div_succ numerator hpos
  · rintro (hround | hround)
    all_goals
      rw [hround]
      split <;> first | rfl | contradiction

/-- A grid that is finer than the quarters of the last place has a point that stands for the
value, which is the one below. -/
theorem isSome_onGrid? (h : IsNormal mantissa exponent) (hmantissa : mantissa ≠ 0)
    (hgrid : grid ≤ -349) : (onGrid? mantissa exponent grid).isSome = true := by
  have hroom : (10 : ℚ) ^ grid < 2 ^ (exponent - 2) :=
    calc (10 : ℚ) ^ grid ≤ 10 ^ (-331 : Int) := zpow_le_zpow_right₀ (by norm_num) (by omega)
      _ < 2 ^ (-1076 : Int) := Binary64.ten_zpow_lt
      _ ≤ 2 ^ (exponent - 2) := h.two_zpow_le
  obtain ⟨floor, hbelow, habove, hstands⟩ := exists_neighbours mantissa exponent grid
  refine hstands (.inl (roundsTo_of_close hmantissa hbelow ?_))
  calc (mantissa : ℚ) * 2 ^ exponent < (Decimal.mk (floor + 1) grid).worth := habove
    _ = (Decimal.mk floor grid).worth + 10 ^ grid := by
        rw [worth, worth]
        push_cast
        ring
    _ < (Decimal.mk floor grid).worth + 2 ^ (exponent - 2) := by gcongr

theorem roundsTo_search (h : IsNormal mantissa exponent) (hmantissa : mantissa ≠ 0) (tries : Nat)
    (hfine : grid - tries ≤ -349) :
    (search mantissa exponent (tries + 1) grid).roundsTo mantissa exponent = true := by
  induction tries generalizing grid with
  | zero =>
    obtain ⟨found, hfound⟩ := Option.isSome_iff_exists.1
      (isSome_onGrid? h hmantissa (by simpa using hfine))
    rw [search, hfound]
    exact roundsTo_of_onGrid? hfound
  | succ tries ih =>
    rw [search]
    split
    · rename_i found hfound
      exact roundsTo_of_onGrid? hfound
    · exact ih (by omega)

theorem exponent_of_onGrid? (h : onGrid? mantissa exponent grid = some a) : a.exponent = grid := by
  rw [onGrid?] at h
  split at h
  · split at h
    all_goals cases h; rfl
  all_goals cases h
  all_goals rfl

theorem isSome_onGrid?_of_roundsTo (hmantissa : mantissa ≠ 0)
    (ha : RoundsTo a.worth mantissa exponent) :
    (onGrid? mantissa exponent a.exponent).isSome = true := by
  have hself := Binary64.roundsTo_self mantissa exponent
  obtain ⟨floor, hbelow, habove, hstands⟩ := exists_neighbours mantissa exponent a.exponent
  rcases Nat.lt_or_ge floor a.digits with hlt | hge
  · refine hstands (.inr ((roundsTo_iff hmantissa).2 (hself.between ha habove.le ?_)))
    rw [worth, worth]
    gcongr
    exact hlt
  · refine hstands (.inl ((roundsTo_iff hmantissa).2 (ha.between hself ?_ hbelow)))
    rw [worth, worth]
    gcongr

theorem le_exponent_search (tries : Nat) {start : Int} (hstart : grid ≤ start)
    (hgrid : (onGrid? mantissa exponent grid).isSome = true) :
    grid ≤ (search mantissa exponent tries start).exponent := by
  induction tries generalizing start with
  | zero => exact hstart
  | succ tries ih =>
    rw [search]
    split
    · rename_i found hfound
      exact hstart.trans (exponent_of_onGrid? hfound).ge
    · rename_i hnone
      have hne : grid ≠ start := by
        rintro rfl
        rw [hnone] at hgrid
        exact absurd hgrid (by decide)
      exact ih (by omega)

/-- **The shortest decimal of a value rounds to it.** -/
theorem roundsTo_shortest (h : IsNormal mantissa exponent) (hmantissa : mantissa ≠ 0) :
    RoundsTo (shortest mantissa exponent).worth mantissa exponent := by
  rw [shortest, if_neg hmantissa]
  exact (roundsTo_iff hmantissa).1 (roundsTo_search h hmantissa 659 (by decide))

/-- **No decimal on a coarser grid rounds to the value.** -/
theorem exponent_le_of_roundsTo (h : IsNormal mantissa exponent) (hmantissa : mantissa ≠ 0)
    (ha : RoundsTo a.worth mantissa exponent) :
    a.exponent ≤ (shortest mantissa exponent).exponent := by
  rw [shortest, if_neg hmantissa]
  refine le_exponent_search 660 ?_ (isSome_onGrid?_of_roundsTo hmantissa ha)
  -- a decimal on a grid above the first one is zero or above the range
  by_contra hcoarse
  have hdigits : (1 : ℚ) ≤ a.digits := by
    have hne : a.digits ≠ 0 := fun hzero => by
      have hlow := ha.two_zpow_le h hmantissa
      rw [worth, hzero, Nat.cast_zero, zero_mul] at hlow
      exact absurd hlow (not_le.2 (by positivity))
    exact_mod_cast Nat.one_le_iff_ne_zero.2 hne
  have hworth : (2 : ℚ) ^ (1024 : Int) < a.worth :=
    calc (2 : ℚ) ^ (1024 : Int) < 10 ^ (310 : Int) := Binary64.lt_ten_zpow
      _ ≤ 10 ^ a.exponent := zpow_le_zpow_right₀ (by norm_num) (by omega)
      _ ≤ a.digits * 10 ^ a.exponent := le_mul_of_one_le_left (by positivity) hdigits
  exact absurd (ha.lt_two_zpow h) (not_lt.2 hworth.le)

end Decimal

namespace Binary64

variable {mantissa : Nat} {exponent : Int}

/-! ## There and back -/

theorem IsNormal.eq_least (h : IsNormal 0 exponent) : exponent = leastExponent := by
  by_contra hne
  exact absurd (h.full (lt_of_le_of_ne h.least (Ne.symm hne))) (by decide)

/-- **A decimal of the worth of the shortest one is rounded to the value again.** -/
theorem nearest_of_worth_eq (negative : Bool) (h : IsNormal mantissa exponent) {digits : Text}
    {tens : Int}
    (hworth : Digits.value digits * 10 ^ tens = (Decimal.shortest mantissa exponent).worth) :
    nearest negative digits tens = .finite negative mantissa exponent := by
  by_cases hmantissa : mantissa = 0
  · subst hmantissa
    have hzero : (Digits.value digits : ℚ) * 10 ^ tens = 0 := by
      rw [hworth, Decimal.shortest, if_pos rfl, Decimal.worth, Nat.cast_zero, zero_mul]
    have hdigits : Digits.value digits = 0 := by
      exact_mod_cast (mul_eq_zero.1 hzero).resolve_right (by positivity)
    rw [nearest, if_pos (by simp [hdigits]), h.eq_least]
  · exact nearest_of_roundsTo negative h hmantissa
      (hworth ▸ Decimal.roundsTo_shortest h hmantissa)

end Binary64
end DocViews
