import DocViews.Decimal.Binary64

/-!
# The shortest decimal of a binary number

The real numbers that round to a value form an interval, whose ends belong to it when the mantissa
is even.  The shortest decimal is the one with the fewest digits in that interval; of several it is
the nearest to the value, and of two equally near ones the larger.

It is found on the coarsest decimal grid with a point in the interval.  If the grid has such a
point at all, then one of the two neighbours of the value on the grid is one.
-/

set_option autoImplicit false

namespace DocViews

/-- The decimal number `digits · 10^exponent`. -/
structure Decimal where
  digits : Nat
  exponent : Int
deriving DecidableEq, Repr

namespace Decimal

open Binary64 (power)

/-- The order of a decimal number and `number · 2^exponent`. -/
def compareBinary (a : Decimal) (number : Nat) (exponent : Int) : Ordering :=
  compare (a.digits * power 10 a.exponent * power 2 (-exponent))
    (number * power 2 exponent * power 10 (-a.exponent))

/-- Whether a decimal number rounds to `mantissa · 2^exponent`.  Below a power of two the values lie
twice as close. -/
def roundsTo (a : Decimal) (mantissa : Nat) (exponent : Int) : Bool :=
  let narrow := 2 * mantissa = Binary64.mantissaBound && Binary64.leastExponent < exponent
  let low := a.compareBinary (if narrow then 4 * mantissa - 1 else 4 * mantissa - 2) (exponent - 2)
  let high := a.compareBinary (4 * mantissa + 2) (exponent - 2)
  let even := mantissa % 2 = 0
  (low = .gt || (even && low = .eq)) && (high = .lt || (even && high = .eq))

/-- The point of a grid that stands for a value, if one does. -/
def onGrid? (mantissa : Nat) (exponent : Int) (grid : Int) : Option Decimal :=
  let numerator := mantissa * power 2 exponent * power 10 (-grid)
  let denominator := power 2 (-exponent) * power 10 grid
  let below : Decimal := ⟨numerator / denominator, grid⟩
  let above : Decimal := ⟨numerator / denominator + 1, grid⟩
  let nearAbove := denominator ≤ 2 * (numerator % denominator)
  match below.roundsTo mantissa exponent, above.roundsTo mantissa exponent with
  | true, true => some (if nearAbove then above else below)
  | true, false => some below
  | false, true => some above
  | false, false => none

/-- Tries so many grids, each ten times as fine as the one before. -/
def search (mantissa : Nat) (exponent : Int) : Nat → Int → Decimal
  | 0, grid => ⟨mantissa * power 2 exponent, grid⟩
  | n + 1, grid =>
    match onGrid? mantissa exponent grid with
    | some found => found
    | none => search mantissa exponent n (grid - 1)

/-- The shortest decimal of `mantissa · 2^exponent`. -/
def shortest (mantissa : Nat) (exponent : Int) : Decimal :=
  if mantissa = 0 then ⟨0, 0⟩ else search mantissa exponent 660 310

/-! ## Layout -/

/-- All places of a decimal number, with one behind the point at least. -/
def positional (a : Decimal) : Text :=
  let digits := Digits.ofNat a.digits
  if 0 ≤ a.exponent then
    digits ++ List.replicate (if a.digits = 0 then 0 else a.exponent.toNat) '0' ++ ['.', '0']
  else
    let places := (-a.exponent).toNat
    let padded := List.leftpad (places + 1) '0' digits
    padded.take (padded.length - places) ++ '.' :: padded.drop (padded.length - places)

/-- The power of ten of the first digit. -/
def magnitude (a : Decimal) : Int :=
  (Digits.ofNat a.digits).length - 1 + a.exponent

/-- The first digit, the others behind a point, and the power of ten. -/
def scientific (a : Decimal) : Text :=
  let digits := Digits.ofNat a.digits
  let point : Text := if digits.length = 1 then [] else ['.']
  digits.take 1 ++ point ++ digits.drop 1 ++ 'e' :: Digits.ofInt a.magnitude

/-- From `0.0001` to `10^16` a number is positional, elsewhere scientific. -/
def text (a : Decimal) : Text :=
  if a.digits = 0 || (-4 ≤ a.magnitude && a.magnitude < 16) then a.positional else a.scientific

end Decimal

namespace Binary64

/-- Writes a value, with a layout for the finite ones. -/
def textWith (layout : Decimal → Text) : Binary64 → Text
  | nan => ['N', 'a', 'N']
  | infinite negative => (if negative then ['-'] else []) ++ ['i', 'n', 'f']
  | finite negative mantissa exponent =>
    (if negative then ['-'] else []) ++ layout (Decimal.shortest mantissa exponent)

/-- All places of a value. -/
def positional (x : Binary64) : Text :=
  x.textWith Decimal.positional

def text (x : Binary64) : Text :=
  x.textWith Decimal.text

end Binary64
end DocViews
