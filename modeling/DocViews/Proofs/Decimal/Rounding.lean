import DocViews.Decimal.Binary64
import DocViews.Proofs.Text.Numbers
import Mathlib.Algebra.Order.Field.Power
import Mathlib.Data.Nat.Cast.Order.Field
import Mathlib.Tactic.FieldSimp
import Mathlib.Tactic.Linarith
import Mathlib.Tactic.Positivity
import Mathlib.Tactic.Ring

/-!
# Rounding to 64 bits

A finite value in its one form (`IsNormal`) stands for a rational number, and the numbers that round
to it form an interval (`RoundsTo`).  A number has one exponent (`IsExponentOf`) and, with it, one
nearest mantissa (`IsNearest`); for the numbers of the interval these are the value's own, or the
mantissa is carried into the next exponent.  So every decimal of the interval is rounded to the value
(`nearest_of_roundsTo`), and what a decimal is rounded to is of that form (`isNumber_nearest`).

Quarters of the last place are the unit throughout, since below a power of two half a place is a
quarter of the place above.
-/

set_option autoImplicit false

namespace DocViews

namespace Binary64

variable {mantissa number numerator denominator : Nat} {exponent finer : Int} {x : ℚ}

/-! ## Powers and fractions -/

theorem power_pos {base : Nat} (h : 0 < base) (exponent : Int) : 0 < power base exponent :=
  Nat.pow_pos h

/-- A power is a fraction of two powers, of which one is 1. -/
theorem power_div_power (base : Nat) (exponent : Int) :
    (power base exponent : ℚ) / power base (-exponent) = (base : ℚ) ^ exponent := by
  obtain ⟨n, rfl | rfl⟩ := exponent.eq_nat_or_neg <;> simp [power]

theorem scaled_div (numerator denominator : Nat) (exponent : Int) :
    ((scaled numerator denominator exponent).1 : ℚ) / (scaled numerator denominator exponent).2 =
      numerator / denominator / 2 ^ exponent := by
  have hpower : (power 2 exponent : ℚ) / power 2 (-exponent) = 2 ^ exponent :=
    power_div_power 2 exponent
  have hne : (power 2 (-exponent) : ℚ) ≠ 0 := by exact_mod_cast (power_pos (by decide) _).ne'
  rw [← hpower]
  simp only [scaled, Nat.cast_mul]
  field_simp

theorem scaled_snd_pos (numerator : Nat) (exponent : Int) (h : denominator ≠ 0) :
    0 < (scaled numerator denominator exponent).2 :=
  Nat.mul_pos (Nat.pos_of_ne_zero h) (power_pos (by decide) _)

/-! ## The nearest whole number -/

/-- A whole number is nearest to a fraction; if another one is as near, it is the even one. -/
structure IsNearest (x : ℚ) (number : Nat) : Prop where
  near : |x - number| ≤ 1 / 2
  even : |x - number| = 1 / 2 → number % 2 = 0

theorem IsNearest.unique {other : Nat} (h : IsNearest x number) (h' : IsNearest x other) :
    number = other := by
  wlog hlt : number < other generalizing number other
  · rcases Nat.lt_or_eq_of_le (Nat.not_lt.1 hlt) with hlt' | heq
    · exact (this h' h hlt').symm
    · exact heq.symm
  exfalso
  have habove := (abs_le.1 h.near).2
  have hbelow := (abs_le.1 h'.near).1
  have hstep : (number : ℚ) + 1 ≤ other := by exact_mod_cast hlt
  -- both are half a step away, so both are even and one follows the other
  have hnext : other = number + 1 := by
    have : (other : ℚ) = number + 1 := by linarith
    exact_mod_cast this
  have hnumber : x - number = 1 / 2 := by linarith
  have hother : x - other = -(1 / 2) := by linarith
  have heven := h.even (by rw [hnumber]; norm_num)
  have heven' := h'.even (by rw [hother]; norm_num)
  omega

theorem isNearest_roundQuotient (h : 0 < denominator) :
    IsNearest ((numerator : ℚ) / denominator) (roundQuotient numerator denominator) := by
  have hpos : (0 : ℚ) < denominator := by exact_mod_cast h
  have hcut : (numerator : ℚ) / denominator =
      (numerator / denominator : Nat) + ((numerator % denominator : Nat) : ℚ) / denominator := by
    rw [eq_comm, ← mul_left_inj' hpos.ne', add_mul, div_mul_cancel₀ _ hpos.ne',
      div_mul_cancel₀ _ hpos.ne']
    exact_mod_cast Nat.div_add_mod' numerator denominator
  have hrest : numerator % denominator < denominator := Nat.mod_lt _ h
  rw [hcut, roundQuotient]
  generalize numerator / denominator = quotient
  generalize numerator % denominator = rest at *
  by_cases hdown : 2 * rest < denominator ∨ 2 * rest = denominator ∧ quotient % 2 = 0
  · have hle : (rest : ℚ) / denominator ≤ 1 / 2 := by
      rw [div_le_div_iff₀ hpos two_pos]
      exact_mod_cast (by omega : rest * 2 ≤ 1 * denominator)
    have habs : |(quotient : ℚ) + rest / denominator - quotient| = rest / denominator := by
      rw [add_sub_cancel_left, abs_of_nonneg (by positivity)]
    rw [if_pos (by simpa using hdown)]
    refine ⟨habs.trans_le hle, fun hhalf => ?_⟩
    rw [habs, div_eq_div_iff hpos.ne' two_ne_zero] at hhalf
    have : rest * 2 = 1 * denominator := by exact_mod_cast hhalf
    omega
  · have hle : 1 / 2 ≤ (rest : ℚ) / denominator := by
      rw [div_le_div_iff₀ two_pos hpos]
      exact_mod_cast (by omega : 1 * denominator ≤ rest * 2)
    have hlt : (rest : ℚ) / denominator < 1 := (div_lt_one hpos).2 (by exact_mod_cast hrest)
    have habs : |(quotient : ℚ) + rest / denominator - (quotient + 1 : Nat)| =
        1 - rest / denominator := by
      rw [Nat.cast_succ, add_sub_add_left_eq_sub, abs_of_neg (by linarith), neg_sub]
    rw [if_neg (by simpa using hdown)]
    refine ⟨by rw [habs]; linarith, fun hhalf => ?_⟩
    rw [habs, sub_eq_iff_eq_add, ← sub_eq_iff_eq_add', sub_half, eq_comm,
      div_eq_div_iff hpos.ne' two_ne_zero] at hhalf
    have : rest * 2 = 1 * denominator := by exact_mod_cast hhalf
    omega

/-! ## The exponent -/

/-- The exponent with which a number has a mantissa of 53 bits in front of the point, or the least
exponent. -/
structure IsExponentOf (x : ℚ) (exponent : Int) : Prop where
  least : leastExponent ≤ exponent
  small : x / 2 ^ exponent < mantissaBound
  full : leastExponent < exponent → mantissaBound ≤ 2 * (x / 2 ^ exponent)

theorem IsExponentOf.unique (h : IsExponentOf x exponent) (h' : IsExponentOf x finer) :
    exponent = finer := by
  wlog hlt : finer < exponent generalizing exponent finer
  · rcases Int.lt_or_eq_of_le (Int.not_lt.1 hlt) with hlt' | heq
    · exact (this h' h hlt').symm
    · exact heq
  exfalso
  have hfull := h.full (h'.least.trans_lt hlt)
  have hsmall := h'.small
  have hx : x / 2 ^ finer = 2 ^ (exponent - finer) * (x / 2 ^ exponent) := by
    rw [zpow_sub₀ two_ne_zero]
    field_simp
  have htwo : (2 : ℚ) ≤ 2 ^ (exponent - finer) := by
    conv_lhs => rw [← zpow_one (2 : ℚ)]
    exact zpow_le_zpow_right₀ one_le_two (by omega)
  have hbound : (0 : ℚ) < mantissaBound := by norm_num [mantissaBound]
  have : (mantissaBound : ℚ) < mantissaBound :=
    calc (mantissaBound : ℚ) ≤ 2 * (x / 2 ^ exponent) := hfull
      _ ≤ 2 ^ (exponent - finer) * (x / 2 ^ exponent) := by
          gcongr
          linarith
      _ = x / 2 ^ finer := hx.symm
      _ < mantissaBound := hsmall
  exact this.false

/-- The lengths of two numbers in binary give their quotient up to a factor of two. -/
theorem zpow_log2_le_div (hnumerator : numerator ≠ 0) (hdenominator : denominator ≠ 0) :
    (2 : ℚ) ^ ((numerator.log2 : Int) - denominator.log2 - 1) ≤ numerator / denominator ∧
      (numerator : ℚ) / denominator < 2 ^ ((numerator.log2 : Int) - denominator.log2 + 1) := by
  have hpos : (0 : ℚ) < denominator := by exact_mod_cast Nat.pos_of_ne_zero hdenominator
  have hlow : (2 : ℚ) ^ numerator.log2 ≤ numerator := by
    exact_mod_cast Nat.log2_self_le hnumerator
  have hhigh : (numerator : ℚ) < 2 ^ (numerator.log2 + 1) := by
    exact_mod_cast Nat.lt_log2_self (n := numerator)
  have hlow' : (2 : ℚ) ^ denominator.log2 ≤ denominator := by
    exact_mod_cast Nat.log2_self_le hdenominator
  have hhigh' : (denominator : ℚ) ≤ 2 ^ (denominator.log2 + 1) := by
    exact_mod_cast (Nat.lt_log2_self (n := denominator)).le
  constructor
  · rw [le_div_iff₀ hpos]
    calc (2 : ℚ) ^ ((numerator.log2 : Int) - denominator.log2 - 1) * denominator
        ≤ 2 ^ ((numerator.log2 : Int) - denominator.log2 - 1) * 2 ^ (denominator.log2 + 1) := by
          gcongr
      _ = 2 ^ numerator.log2 := by
          rw [← zpow_natCast, ← zpow_natCast, ← zpow_add₀ two_ne_zero]
          congr 1
          push_cast
          ring
      _ ≤ numerator := hlow
  · rw [div_lt_iff₀ hpos]
    calc (numerator : ℚ) < 2 ^ (numerator.log2 + 1) := hhigh
      _ = 2 ^ ((numerator.log2 : Int) - denominator.log2 + 1) * 2 ^ denominator.log2 := by
          rw [← zpow_natCast, ← zpow_natCast, ← zpow_add₀ two_ne_zero]
          congr 1
          push_cast
          ring
      _ ≤ 2 ^ ((numerator.log2 : Int) - denominator.log2 + 1) * denominator := by gcongr

theorem mantissaBound_eq : (mantissaBound : ℚ) = 2 ^ (53 : Int) := by
  norm_num [mantissaBound]

theorem isExponentOf_exponentOf (hnumerator : numerator ≠ 0) (hdenominator : denominator ≠ 0) :
    IsExponentOf ((numerator : ℚ) / denominator) (exponentOf numerator denominator) := by
  obtain ⟨hlow, hhigh⟩ := zpow_log2_le_div hnumerator hdenominator
  rw [exponentOf]
  generalize hguess : max ((numerator.log2 : Int) - denominator.log2 - 53) leastExponent = guess
  show IsExponentOf _ (if (scaled numerator denominator guess).1 /
    (scaled numerator denominator guess).2 < mantissaBound then guess else guess + 1)
  have hfits : (scaled numerator denominator guess).1 / (scaled numerator denominator guess).2 <
      mantissaBound ↔ (numerator : ℚ) / denominator / 2 ^ guess < mantissaBound := by
    have hpos := scaled_snd_pos numerator guess hdenominator
    rw [← scaled_div, Nat.div_lt_iff_lt_mul hpos, div_lt_iff₀ (by exact_mod_cast hpos)]
    exact_mod_cast Iff.rfl
  generalize (numerator : ℚ) / denominator = x at *
  by_cases hsmall : x / 2 ^ guess < mantissaBound
  · rw [if_pos (hfits.2 hsmall)]
    refine ⟨by omega, hsmall, fun hleast => ?_⟩
    rw [mantissaBound_eq, ← div_le_iff₀' two_pos, le_div_iff₀ (by positivity)]
    refine le_trans (le_of_eq ?_) hlow
    rw [div_eq_mul_inv, ← zpow_sub_one₀ two_ne_zero, ← zpow_add₀ two_ne_zero]
    congr 1
    omega
  · rw [if_neg (mt hfits.1 hsmall)]
    have hhalf : 2 * (x / 2 ^ (guess + 1)) = x / 2 ^ guess := by
      rw [zpow_add_one₀ two_ne_zero]
      field_simp
    refine ⟨by omega, ?_, fun _ => hhalf ▸ not_lt.1 hsmall⟩
    rw [mantissaBound_eq, div_lt_iff₀ (by positivity), ← zpow_add₀ two_ne_zero]
    exact hhigh.trans_le (zpow_le_zpow_right₀ one_le_two (by omega))

/-! ## The numbers that round to a value -/

/-- The one form of a finite value: its mantissa has all of its 53 bits, or the exponent is the least
one. -/
structure IsNormal (mantissa : Nat) (exponent : Int) : Prop where
  small : mantissa < mantissaBound
  least : leastExponent ≤ exponent
  greatest : exponent ≤ greatestExponent
  full : leastExponent < exponent → mantissaBound ≤ 2 * mantissa

/-- A value that is a number: a finite one is in its one form. -/
def IsNumber : Binary64 → Prop
  | finite _ mantissa exponent => IsNormal mantissa exponent
  | infinite _ => True
  | nan => False

/-- The way down to the middle between a value and the one below it, in quarters of the last place.
The values below a power of two lie twice as close. -/
def quartersBelow (mantissa : Nat) (exponent : Int) : Nat :=
  if 2 * mantissa = mantissaBound ∧ leastExponent < exponent then 1 else 2

/-- A number is as near to a value as to any other; if it is as near to another one, then the value
is the even one of the two. -/
structure RoundsTo (x : ℚ) (mantissa : Nat) (exponent : Int) : Prop where
  low : (4 * mantissa : ℚ) ≤ x / 2 ^ (exponent - 2) + quartersBelow mantissa exponent
  high : x / 2 ^ (exponent - 2) ≤ 4 * mantissa + 2
  even : x / 2 ^ (exponent - 2) + quartersBelow mantissa exponent = 4 * mantissa ∨
    x / 2 ^ (exponent - 2) = 4 * mantissa + 2 → mantissa % 2 = 0

theorem quartersBelow_le (mantissa : Nat) (exponent : Int) :
    quartersBelow mantissa exponent ≤ 2 := by
  rw [quartersBelow]
  split <;> decide

theorem one_le_quartersBelow (mantissa : Nat) (exponent : Int) :
    1 ≤ quartersBelow mantissa exponent := by
  rw [quartersBelow]
  split <;> decide

theorem two_zpow_eq (exponent : Int) : (2 : ℚ) ^ exponent = 4 * 2 ^ (exponent - 2) := by
  rw [zpow_sub₀ two_ne_zero]
  field_simp
  norm_num

theorem roundsTo_self (mantissa : Nat) (exponent : Int) :
    RoundsTo (mantissa * 2 ^ exponent) mantissa exponent := by
  have hpos : (0 : ℚ) < 2 ^ (exponent - 2) := by positivity
  have hplaces : (mantissa : ℚ) * 2 ^ exponent / 2 ^ (exponent - 2) = 4 * mantissa := by
    rw [two_zpow_eq exponent]
    field_simp
  have hquarters : (1 : ℚ) ≤ quartersBelow mantissa exponent := by
    exact_mod_cast one_le_quartersBelow mantissa exponent
  refine ⟨by linarith, by linarith, ?_⟩
  rintro (hedge | hedge) <;> linarith

/-- What rounds to a value is an interval. -/
theorem RoundsTo.between {y z : ℚ} (hx : RoundsTo x mantissa exponent)
    (hz : RoundsTo z mantissa exponent) (hxy : x ≤ y) (hyz : y ≤ z) :
    RoundsTo y mantissa exponent := by
  have hpos : (0 : ℚ) < 2 ^ (exponent - 2) := by positivity
  have hlow : x / 2 ^ (exponent - 2) ≤ y / 2 ^ (exponent - 2) := by gcongr
  have hhigh : y / 2 ^ (exponent - 2) ≤ z / 2 ^ (exponent - 2) := by gcongr
  have hfirst := hx.low
  have hlast := hz.high
  refine ⟨by linarith, by linarith, ?_⟩
  rintro (hedge | hedge)
  · exact hx.even (.inl (by linarith))
  · exact hz.even (.inr (by linarith))

/-- What rounds to a value is rounded with the exponent of the value; below a power of two it is
rounded up, with the exponent before. -/
theorem RoundsTo.cases (h : IsNormal mantissa exponent) (hx : RoundsTo x mantissa exponent) :
    IsExponentOf x exponent ∧ IsNearest (x / 2 ^ exponent) mantissa ∨
      2 * mantissa = mantissaBound ∧ IsExponentOf x (exponent - 1) ∧
        IsNearest (x / 2 ^ (exponent - 1)) mantissaBound := by
  have hplace : x / 2 ^ exponent = x / 2 ^ (exponent - 2) / 4 := by
    rw [two_zpow_eq exponent, div_mul_eq_div_div_swap]
  have hhalf : x / 2 ^ (exponent - 1) = x / 2 ^ (exponent - 2) / 2 := by
    rw [zpow_sub₀ two_ne_zero, zpow_sub₀ two_ne_zero]
    field_simp
  obtain ⟨hlow, hhigh, heven⟩ := hx
  rw [hplace, hhalf]
  have hsmall : (mantissa : ℚ) + 1 ≤ mantissaBound := by exact_mod_cast h.small
  have hquarters : (quartersBelow mantissa exponent : ℚ) ≤ 2 := by
    exact_mod_cast quartersBelow_le mantissa exponent
  by_cases hfull : leastExponent < exponent →
      (mantissaBound : ℚ) ≤ 2 * (x / 2 ^ (exponent - 2) / 4)
  · refine .inl ⟨⟨h.least, by rw [hplace]; linarith, by rwa [hplace]⟩, ?_, fun hedge => ?_⟩
    · exact abs_le.2 ⟨by linarith, by linarith⟩
    · refine heven ?_
      rcases (abs_eq (by norm_num)).1 hedge with hedge | hedge
      · exact .inr (by linarith)
      · exact .inl (by linarith)
  · obtain ⟨hleast, hbelow⟩ := Classical.not_imp.1 hfull
    rw [not_le] at hbelow
    have hmantissa : 2 * mantissa = mantissaBound := by
      have hlt : (2 * mantissa : ℚ) < mantissaBound + 1 := by linarith
      have : 2 * mantissa < mantissaBound + 1 := by exact_mod_cast hlt
      exact Nat.le_antisymm (by omega) (h.full hleast)
    have hone : quartersBelow mantissa exponent = 1 := if_pos ⟨hmantissa, hleast⟩
    have hbound : (2 * mantissa : ℚ) = mantissaBound := by exact_mod_cast hmantissa
    have hpos : (1 : ℚ) ≤ mantissaBound := by exact_mod_cast (by decide : 1 ≤ mantissaBound)
    rw [hone, Nat.cast_one] at hlow
    refine .inr ⟨hmantissa, ⟨by omega, by rw [hhalf]; linarith, fun _ => by rw [hhalf]; linarith⟩,
      abs_le.2 ⟨by linarith, by linarith⟩, fun _ => by decide⟩

/-! ## Rounding to a value -/

theorem nearestFraction_eq (negative : Bool) (numerator denominator : Nat) :
    nearestFraction negative numerator denominator =
      let exponent := exponentOf numerator denominator
      let rounded := roundQuotient (scaled numerator denominator exponent).1
        (scaled numerator denominator exponent).2
      let value :=
        if rounded = mantissaBound then (mantissaBound / 2, exponent + 1) else (rounded, exponent)
      if greatestExponent < value.2 then .infinite negative
      else .finite negative value.1 value.2 :=
  rfl

theorem isNearest_scaled (numerator : Nat) (exponent : Int) (hdenominator : denominator ≠ 0) :
    IsNearest ((numerator : ℚ) / denominator / 2 ^ exponent)
      (roundQuotient (scaled numerator denominator exponent).1
        (scaled numerator denominator exponent).2) :=
  scaled_div numerator denominator exponent ▸
    isNearest_roundQuotient (scaled_snd_pos numerator exponent hdenominator)

theorem nearestFraction_of_roundsTo (negative : Bool) (hnumerator : numerator ≠ 0)
    (hdenominator : denominator ≠ 0) (h : IsNormal mantissa exponent)
    (hx : RoundsTo ((numerator : ℚ) / denominator) mantissa exponent) :
    nearestFraction negative numerator denominator = .finite negative mantissa exponent := by
  have hexponent := isExponentOf_exponentOf hnumerator hdenominator
  have hrounded := isNearest_scaled numerator (exponentOf numerator denominator) hdenominator
  rw [nearestFraction_eq]
  dsimp only
  generalize exponentOf numerator denominator = found at *
  generalize roundQuotient _ _ = rounded at *
  rcases hx.cases h with ⟨hfound, hnear⟩ | ⟨hmantissa, hfound, hnear⟩
  · obtain rfl := hexponent.unique hfound
    obtain rfl := hrounded.unique hnear
    rw [if_neg h.small.ne, if_neg (Int.not_lt.2 h.greatest)]
  · obtain rfl := hexponent.unique hfound
    obtain rfl := hrounded.unique hnear
    have hgreatest := h.greatest
    rw [if_pos rfl, if_neg (by omega), Int.sub_add_cancel, ← hmantissa,
      Nat.mul_div_cancel_left _ two_pos]

/-- Every fraction is rounded to a number. -/
theorem isNumber_nearestFraction (negative : Bool) (hnumerator : numerator ≠ 0)
    (hdenominator : denominator ≠ 0) :
    (nearestFraction negative numerator denominator).IsNumber := by
  have hexponent := isExponentOf_exponentOf hnumerator hdenominator
  have hrounded := isNearest_scaled numerator (exponentOf numerator denominator) hdenominator
  rw [nearestFraction_eq]
  dsimp only
  generalize exponentOf numerator denominator = found at *
  generalize roundQuotient _ _ = rounded at *
  generalize (numerator : ℚ) / denominator = x at *
  obtain ⟨hbelow, habove⟩ := abs_le.1 hrounded.near
  have hle : rounded ≤ mantissaBound := by
    have hlt : (rounded : ℚ) < mantissaBound + 1 := by linarith [hexponent.small]
    exact Nat.lt_succ_iff.1 (by exact_mod_cast hlt)
  have hfull : leastExponent < found → mantissaBound ≤ 2 * rounded := fun hleast => by
    have hlt : (mantissaBound : ℚ) ≤ 2 * rounded + 1 := by linarith [hexponent.full hleast]
    have hle' : mantissaBound ≤ 2 * rounded + 1 := by exact_mod_cast hlt
    have heven : mantissaBound % 2 = 0 := by decide
    omega
  have hleast := hexponent.least
  by_cases hcarry : rounded = mantissaBound
  · rw [if_pos hcarry]
    dsimp only
    split
    · trivial
    · have hhalf : 2 * (mantissaBound / 2) = mantissaBound := by decide
      exact ⟨Nat.div_lt_self (by decide) (by decide), by omega, by omega, fun _ => hhalf.ge⟩
  · rw [if_neg hcarry]
    dsimp only
    split
    · trivial
    · exact ⟨by omega, hleast, by omega, hfull⟩

/-- The least value is far above the decimals that are taken for zero at once, -/
theorem ten_zpow_lt : (10 : ℚ) ^ (-331 : Int) < 2 ^ (-1076 : Int) := by
  rw [zpow_neg, zpow_neg]
  refine inv_strictAnti₀ (by positivity) ?_
  exact_mod_cast (by decide +kernel : 2 ^ 1076 < 10 ^ 331)

/-- and the greatest one is far below those that are taken for infinite. -/
theorem lt_ten_zpow : (2 : ℚ) ^ (1024 : Int) < 10 ^ (310 : Int) := by
  exact_mod_cast (by decide +kernel : 2 ^ 1024 < 10 ^ 310)

theorem IsNormal.two_zpow_le (h : IsNormal mantissa exponent) :
    (2 : ℚ) ^ (-1076 : Int) ≤ 2 ^ (exponent - 2) :=
  have hleast : -1074 ≤ exponent := h.least
  zpow_le_zpow_right₀ one_le_two (by omega)

theorem RoundsTo.two_zpow_le (h : IsNormal mantissa exponent) (hmantissa : mantissa ≠ 0)
    (hx : RoundsTo x mantissa exponent) : (2 : ℚ) ^ (-1076 : Int) ≤ x := by
  have hone : (1 : ℚ) ≤ mantissa := by exact_mod_cast Nat.one_le_iff_ne_zero.2 hmantissa
  have hquarters : (quartersBelow mantissa exponent : ℚ) ≤ 2 := by
    exact_mod_cast quartersBelow_le mantissa exponent
  calc (2 : ℚ) ^ (-1076 : Int) ≤ 2 ^ (exponent - 2) := h.two_zpow_le
    _ ≤ x := (one_le_div (by positivity)).1 (by linarith [hx.low])

theorem RoundsTo.lt_two_zpow (h : IsNormal mantissa exponent)
    (hx : RoundsTo x mantissa exponent) : x < 2 ^ (1024 : Int) := by
  have hsmall : (mantissa : ℚ) + 1 ≤ mantissaBound := by exact_mod_cast h.small
  have hgreatest : exponent ≤ 971 := h.greatest
  have hlt : x / 2 ^ (exponent - 2) < 4 * mantissaBound := by linarith [hx.high]
  calc x < 4 * mantissaBound * 2 ^ (exponent - 2) := (div_lt_iff₀ (by positivity)).1 hlt
    _ = 2 ^ (53 + exponent) := by
        rw [mantissaBound_eq, zpow_sub₀ two_ne_zero, zpow_add₀ two_ne_zero]
        ring
    _ ≤ 2 ^ (1024 : Int) := zpow_le_zpow_right₀ one_le_two (by omega)

/-- **The decimals that round to a value are rounded to it.** -/
theorem nearest_of_roundsTo (negative : Bool) {digits : Text} {tens : Int}
    (h : IsNormal mantissa exponent) (hmantissa : mantissa ≠ 0)
    (hx : RoundsTo (Digits.value digits * 10 ^ tens) mantissa exponent) :
    nearest negative digits tens = .finite negative mantissa exponent := by
  have hlow := hx.two_zpow_le h hmantissa
  have hhigh := hx.lt_two_zpow h
  have hnumber : Digits.value digits ≠ 0 := fun hzero => by
    rw [hzero, Nat.cast_zero, zero_mul] at hlow
    exact absurd hlow (not_le.2 (by positivity))
  rw [nearest]
  generalize Digits.value digits = number at *
  generalize hlength : (Digits.ofNat number).length = length
  have hbelow : -330 ≤ (length : Int) + tens := by
    by_contra hlt
    have : (number : ℚ) * 10 ^ tens < 2 ^ (-1076 : Int) :=
      calc (number : ℚ) * 10 ^ tens ≤ 10 ^ length * 10 ^ tens := by
            gcongr
            exact_mod_cast hlength ▸ (Digits.lt_pow_length_ofNat number).le
        _ = 10 ^ ((length : Int) + tens) := by rw [zpow_add₀ (by norm_num), zpow_natCast]
        _ ≤ 10 ^ (-331 : Int) := zpow_le_zpow_right₀ (by norm_num) (by omega)
        _ < 2 ^ (-1076 : Int) := ten_zpow_lt
    exact absurd hlow (not_le.2 this)
  have habove : (length : Int) + tens ≤ 330 := by
    by_contra hlt
    have hpos : 0 < length := hlength ▸ Nat.length_toDigits_pos
    have : (2 : ℚ) ^ (1024 : Int) < number * 10 ^ tens :=
      calc (2 : ℚ) ^ (1024 : Int) < 10 ^ (310 : Int) := lt_ten_zpow
        _ ≤ 10 ^ (((length - 1 : Nat) : Int) + tens) :=
            zpow_le_zpow_right₀ (by norm_num) (by omega)
        _ = 10 ^ (length - 1) * 10 ^ tens := by rw [zpow_add₀ (by norm_num), zpow_natCast]
        _ ≤ number * 10 ^ tens := by
            gcongr
            exact_mod_cast hlength ▸ Digits.pow_length_ofNat_le hnumber
    exact absurd hhigh (not_lt.2 this.le)
  rw [if_neg (by simp [hnumber, hbelow]), if_neg (Int.not_lt.2 habove)]
  refine nearestFraction_of_roundsTo negative
    (Nat.mul_ne_zero hnumber (power_pos (by decide) _).ne') (power_pos (by decide) _).ne' h ?_
  have hworth : ((number * power 10 tens : Nat) : ℚ) / power 10 (-tens) = number * 10 ^ tens := by
    rw [Nat.cast_mul, mul_div_assoc, power_div_power, Nat.cast_ofNat]
  rwa [hworth]

/-- Every decimal is rounded to a number. -/
theorem isNumber_nearest (negative : Bool) (digits : Text) (tens : Int) :
    (nearest negative digits tens).IsNumber := by
  rw [nearest]
  split
  · exact ⟨by decide, by decide, by decide, fun hlt => absurd hlt (by decide)⟩
  · rename_i hnumber
    split
    · trivial
    · exact isNumber_nearestFraction negative
        (Nat.mul_ne_zero (by simp_all) (power_pos (by decide) _).ne') (power_pos (by decide) _).ne'

end Binary64
end DocViews
