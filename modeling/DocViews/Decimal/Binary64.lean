import DocViews.Text.Digits

/-!
# Numbers of 64 bits with a binary point

A finite value is `mantissa · 2^exponent` with a sign, where the mantissa has 53 bits at most and
the exponent is at least -1074.  The mantissa has all of its 53 bits unless the exponent is the
least one, so every value has one form.

`Binary64.nearest` rounds a decimal number to a value: to the nearest one, of two equally near ones
to the one with the even mantissa, and to infinity above the range.
-/

set_option autoImplicit false

namespace DocViews

inductive Binary64 where
  | finite (negative : Bool) (mantissa : Nat) (exponent : Int)
  | infinite (negative : Bool)
  | nan
deriving DecidableEq, Repr

namespace Binary64

/-- The first number of 54 bits, `2⁵³`. -/
def mantissaBound : Nat := 9007199254740992

def leastExponent : Int := -1074

def greatestExponent : Int := 971

/-- The quotient rounded to the nearest whole number, of two to the even one. -/
def roundQuotient (numerator denominator : Nat) : Nat :=
  let quotient := numerator / denominator
  let rest := 2 * (numerator % denominator)
  if rest < denominator || (rest = denominator && quotient % 2 = 0) then quotient else quotient + 1

/-- A power with a whole exponent, which is 1 if the exponent is negative. -/
def power (base : Nat) (exponent : Int) : Nat :=
  Nat.pow base exponent.toNat

/-- The fraction divided by a power of two. -/
def scaled (numerator denominator : Nat) (exponent : Int) : Nat × Nat :=
  (numerator * power 2 (-exponent), denominator * power 2 exponent)

/-- The exponent with which a fraction has a mantissa of 53 bits, or the least exponent. -/
def exponentOf (numerator denominator : Nat) : Int :=
  let guess := max ((numerator.log2 : Int) - denominator.log2 - 53) leastExponent
  let (n, d) := scaled numerator denominator guess
  if n / d < mantissaBound then guess else guess + 1

def nearestFraction (negative : Bool) (numerator denominator : Nat) : Binary64 :=
  let exponent := exponentOf numerator denominator
  let (n, d) := scaled numerator denominator exponent
  let mantissa := roundQuotient n d
  let (mantissa, exponent) :=
    if mantissa = mantissaBound then (mantissaBound / 2, exponent + 1) else (mantissa, exponent)
  if greatestExponent < exponent then .infinite negative else .finite negative mantissa exponent

/-- The value nearest to `digits · 10^exponent`.  Far outside of the range the answer is known
without the power. -/
def nearest (negative : Bool) (digits : Text) (exponent : Int) : Binary64 :=
  let number := Digits.value digits
  let size := (Digits.ofNat number).length + exponent
  if number = 0 || size < -330 then .finite negative 0 leastExponent
  else if 330 < size then .infinite negative
  else nearestFraction negative (number * power 10 exponent) (power 10 (-exponent))

end Binary64
end DocViews
