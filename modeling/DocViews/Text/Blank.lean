import DocViews.Text.Basic
import DocViews.Text.CharTable

/-!
# Blank characters and trimming

A character is *blank* when Unicode gives it the property `White_Space`, and a text is blank when
all of its characters are.  Trimming removes blanks at the ends and nothing else.

The control characters are the two blocks of category `Cc`; they overlap the blanks in the six
characters from tab to carriage return and in U+0085.
-/

set_option autoImplicit false

namespace DocViews

/-- The ranges of `White_Space`. -/
def blankTable : CharTable := [
  (0x9, 0xd), (0x20, 0x20), (0x85, 0x85), (0xa0, 0xa0), (0x1680, 0x1680), (0x2000, 0x200a),
  (0x2028, 0x2029), (0x202f, 0x202f), (0x205f, 0x205f), (0x3000, 0x3000)]

def isBlank (c : Char) : Bool :=
  blankTable.covers c

/-- The control characters: U+0000 to U+001F and U+007F to U+009F. -/
def isControl (c : Char) : Bool :=
  c.toNat < 0x20 || (0x7f ≤ c.toNat && c.toNat < 0xa0)

namespace Text

/-- Whether a text holds blanks only. -/
def isBlankText (text : Text) : Bool :=
  text.all isBlank

def trimStart (text : Text) : Text :=
  text.dropWhile isBlank

def trimEnd (text : Text) : Text :=
  (text.reverse.dropWhile isBlank).reverse

/-- Removes the blanks at both ends. -/
def trim (text : Text) : Text :=
  trimEnd (trimStart text)

theorem dropWhile_isBlank_eq_nil_iff {text : Text} :
    text.dropWhile isBlank = [] ↔ isBlankText text = true := by
  induction text with
  | nil => simp [isBlankText]
  | cons c rest ih =>
    cases h : isBlank c <;> simp_all [isBlankText]

theorem isBlankText_reverse (text : Text) : isBlankText text.reverse = isBlankText text := by
  simp [isBlankText]

theorem trimEnd_eq_nil_iff {text : Text} : trimEnd text = [] ↔ isBlankText text = true := by
  rw [trimEnd, List.reverse_eq_nil_iff, dropWhile_isBlank_eq_nil_iff, isBlankText_reverse]

/-- Dropping blanks in front does not change whether a text is blank. -/
theorem isBlankText_trimStart (text : Text) : isBlankText (trimStart text) = isBlankText text := by
  induction text with
  | nil => rfl
  | cons c rest ih =>
    cases h : isBlank c <;> simp_all [isBlankText, trimStart]

/-- Nothing is left of a text after trimming exactly when it is blank. -/
theorem trim_eq_nil_iff {text : Text} : trim text = [] ↔ isBlankText text = true := by
  rw [trim, trimEnd_eq_nil_iff, isBlankText_trimStart]

end Text
end DocViews
