/-!
# Text

Names, paths, documents and generated files are all *text*: a list of characters.  Cutting at a
separator and the join that undoes it are `List.splitOn` and `List.intercalate`; this file holds the
other cuts that the rest of the library is written with.

Text is made of whole characters.  A file that is no UTF-8 still has its octets
(`FileContent.octets`), but a name is always text: names of files that are not UTF-8, which a disk
may have too, are not covered.

## What is here

* `Text.splitOnce?` — the cut at the first separator.
* `Text.pieces` — the text cut after every line feed, each piece keeping its line feed.
* `Text.lines` — the same cut without the line ends, where a carriage return before a line feed
  belongs to the line end and any other carriage return is text.
* `Text.splitAtByte?` — the cut at an offset that counts UTF-8 bytes.
-/

set_option autoImplicit false

namespace DocViews

/-- Text is a sequence of characters. -/
abbrev Text := List Char

namespace Text

/-! ## Cutting and joining -/

@[deprecated List.splitOn (since := "2026-06-01")]
abbrev splitOn (separator : Char) (text : Text) : List Text :=
  List.splitOn separator text

@[deprecated List.intercalate (since := "2026-06-01")]
abbrev joinWith (separator : Text) (pieces : List Text) : Text :=
  List.intercalate separator pieces

/-- Cuts at the first separator, which belongs to neither side. -/
def splitOnce? (separator : Char) : Text → Option (Text × Text)
  | [] => none
  | c :: rest =>
    if c = separator then some ([], rest)
    else (splitOnce? separator rest).map fun cut => (c :: cut.1, cut.2)

/-! ## Lines -/

/-- The text cut after every line feed. -/
def pieces : Text → List Text
  | [] => []
  | c :: rest =>
    if c = '\n' then [c] :: pieces rest
    else
      match pieces rest with
      | [] => [[c]]
      | piece :: more => (c :: piece) :: more

/-- A piece without its line end: a line feed, or a carriage return and a line feed. -/
def dropLineEnd (piece : Text) : Text :=
  match piece.reverse with
  | '\n' :: '\r' :: line => line.reverse
  | '\n' :: line => line.reverse
  | _ => piece

/-- The lines of a text.  A final line feed ends the last line and starts no new one. -/
def lines (text : Text) : List Text :=
  (pieces text).map dropLineEnd

/-- Writes a line feed for every carriage return and line feed. -/
def unifyLineEnds : Text → Text
  | '\r' :: '\n' :: rest => '\n' :: unifyLineEnds rest
  | c :: rest => c :: unifyLineEnds rest
  | [] => []

/-! ## Offsets in bytes -/

/-- The length of the UTF-8 encoding. -/
def byteSize : Text → Nat
  | [] => 0
  | c :: rest => c.utf8Size + byteSize rest

/-- Cuts at an offset in bytes; an offset inside a character or past the end has no cut. -/
def splitAtByte? : Nat → Text → Option (Text × Text)
  | 0, text => some ([], text)
  | _ + 1, [] => none
  | n + 1, c :: rest =>
    if c.utf8Size ≤ n + 1 then
      (splitAtByte? (n + 1 - c.utf8Size) rest).map fun cut => (c :: cut.1, cut.2)
    else none

/-! ## Small laws -/

theorem flatten_pieces (text : Text) : (pieces text).flatten = text := by
  induction text with
  | nil => rfl
  | cons c rest ih =>
    simp only [pieces]
    split
    · simp [ih]
    · cases hs : pieces rest with
      | nil => rw [hs] at ih; simpa using ih
      | cons piece more => rw [hs] at ih; simpa using ih

theorem byteSize_eq_zero_iff {text : Text} : byteSize text = 0 ↔ text = [] := by
  cases text with
  | nil => exact iff_of_true rfl rfl
  | cons c rest =>
    have hpos := c.utf8Size_pos
    exact iff_of_false (by rw [byteSize]; omega) (List.cons_ne_nil c rest)

theorem byteSize_append (s t : Text) : byteSize (s ++ t) = byteSize s + byteSize t := by
  induction s with
  | nil => simp [byteSize]
  | cons c rest ih => rw [List.cons_append, byteSize, byteSize, ih, Nat.add_assoc]

/-- A text can be cut behind any of its beginnings. -/
theorem splitAtByte?_byteSize (before after : Text) :
    splitAtByte? (byteSize before) (before ++ after) = some (before, after) := by
  induction before with
  | nil => cases after <;> rfl
  | cons c rest ih =>
    have hpos := c.utf8Size_pos
    obtain ⟨n, hn⟩ : ∃ n, byteSize (c :: rest) = n + 1 :=
      ⟨c.utf8Size + byteSize rest - 1, by rw [byteSize]; omega⟩
    rw [hn, List.cons_append, splitAtByte?]
    rw [byteSize] at hn
    rw [if_pos (by omega), show n + 1 - c.utf8Size = byteSize rest by omega, ih]
    rfl

end Text
end DocViews
