import DocViews.Text.Basic

/-!
# Decimal numerals

Reading and writing of whole numbers in decimal.  `Digits.value` is the number that a text of ASCII
digits stands for; leading zeros are allowed and change nothing.
-/

set_option autoImplicit false

namespace DocViews
namespace Digits

/-- The worth of one digit. -/
def digitValue (c : Char) : Nat :=
  c.toNat - '0'.toNat

/-- The number that a text of digits stands for. -/
def value (digits : Text) : Nat :=
  digits.foldl (fun n c => 10 * n + digitValue c) 0

/-- A nonempty text of ASCII digits. -/
def isNumeral (text : Text) : Bool :=
  !text.isEmpty && text.all Char.isDigit

def ofNat (n : Nat) : Text :=
  Nat.toDigits 10 n

/-- A minus sign stands before the digits of a negative number, and a positive number has none. -/
def ofInt : Int → Text
  | .ofNat n => ofNat n
  | .negSucc n => '-' :: ofNat (n + 1)

/-- The numeral filled up with zeros behind its sign until it has the width; the sign counts. -/
def padded (width : Nat) : Int → Text
  | .ofNat n => List.leftpad width '0' (ofNat n)
  | .negSucc n => '-' :: List.leftpad (width - 1) '0' (ofNat (n + 1))

end Digits
end DocViews
