import DocViews.Decimal.Binary64
import DocViews.Toml.Quoted

/-!
# Numbers in TOML

A whole number has 64 bits with its sign; it is decimal, or hexadecimal, octal or binary behind its
mark.  A number with a fraction or an exponent is rounded to 64 bits.  An underscore may stand
between two digits, and a decimal number has no needless zero in front.
-/

set_option autoImplicit false

namespace DocViews
namespace Toml

/-- The digits of a run, and what follows it.  An underscore counts if a digit follows it. -/
def digitRun (isDigit : Char → Bool) : Text → Text × Text
  | [] => ([], [])
  | c :: rest =>
    if isDigit c then
      let (digits, rest) := digitRun isDigit rest
      (c :: digits, rest)
    else if c = '_' && (rest.head?.map isDigit).getD false then digitRun isDigit rest
    else ([], c :: rest)

/-- Reads a run that begins with a digit. -/
def readRun? (isDigit : Char → Bool) (text : Text) : Option (Text × Text) :=
  if (text.head?.map isDigit).getD false then some (digitRun isDigit text) else none

/-- Reads a sign, if there is one: whether it is a minus, and what follows it. -/
def readSign : Text → Bool × Text
  | '+' :: rest => (false, rest)
  | '-' :: rest => (true, rest)
  | text => (false, text)

/-- Reads decimal digits without a needless zero in front. -/
def readDecimal? (text : Text) : Option (Text × Text) :=
  match text with
  | '0' :: rest => some (['0'], rest)
  | _ => readRun? Char.isDigit text

/-! ## Whole numbers -/

/-- The greatest number of 64 bits with a sign, `2⁶³ - 1`. -/
def maxInteger : Int := 9223372036854775807

/-- Whether a number fits in 64 bits with its sign. -/
def inRange (n : Int) : Bool :=
  -maxInteger - 1 ≤ n && n ≤ maxInteger

/-- The base that a mark in front of a number stands for. -/
def markedBase? (c : Char) : Option Nat :=
  if c = 'x' then some 16 else if c = 'o' then some 8 else if c = 'b' then some 2 else none

def readMarked? (base : Nat) (text : Text) : Option (Int × Text) := do
  let (digits, rest) ← readRun? (fun c => isHexDigit c && digitWorth c < base) text
  let n : Int := numberIn base digits
  if inRange n then some (n, rest) else none

def readSigned? (text : Text) : Option (Int × Text) := do
  let (negative, rest) := readSign text
  let (digits, rest) ← readDecimal? rest
  let n : Int := Digits.value digits
  let n := if negative then -n else n
  if inRange n then some (n, rest) else none

def readInteger? (text : Text) : Option (Int × Text) :=
  match text with
  | '0' :: mark :: rest =>
    match markedBase? mark with
    | some base => readMarked? base rest
    | none => readSigned? text
  | _ => readSigned? text

/-! ## Numbers with a binary point -/

/-- Reads a fraction, if there is one: its digits, and what follows them. -/
def readFraction? : Text → Option (Option Text × Text)
  | '.' :: rest => (readRun? Char.isDigit rest).map fun (digits, rest) => (some digits, rest)
  | text => some (none, text)

/-- Reads an exponent, if there is one. -/
def readExponent? (text : Text) : Option (Option Int × Text) :=
  match text with
  | [] => some (none, text)
  | c :: rest =>
    if c = 'e' || c = 'E' then do
      let (negative, rest) := readSign rest
      let (digits, rest) ← readRun? Char.isDigit rest
      let n : Int := Digits.value digits
      return (some (if negative then -n else n), rest)
    else some (none, text)

/-- The names of the values that are no numbers in digits. -/
def readSpecial? (negative : Bool) : Text → Option (Binary64 × Text)
  | 'i' :: 'n' :: 'f' :: rest => some (.infinite negative, rest)
  | 'n' :: 'a' :: 'n' :: rest => some (.nan, rest)
  | _ => none

/-- Reads a number in digits with a fraction or an exponent.  Positive numbers above the range are
refused. -/
def readPointed? (text : Text) : Option (Binary64 × Text) := do
  let (negative, rest) := readSign text
  let (whole, rest) ← readDecimal? rest
  let (fraction, rest) ← readFraction? rest
  let (exponent, rest) ← readExponent? rest
  if fraction.isNone && exponent.isNone then none
  else
    let places := fraction.getD []
    let x := Binary64.nearest negative (whole ++ places) (exponent.getD 0 - places.length)
    if x = .infinite false then none else some (x, rest)

def readFloat? (text : Text) : Option (Binary64 × Text) :=
  match readPointed? text with
  | some found => some found
  | none =>
    let (negative, rest) := readSign text
    readSpecial? negative rest

end Toml
end DocViews
