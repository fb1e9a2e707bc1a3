import DocViews.Text.Basic

/-!
# Reading YAML character by character

A cursor is a place in a YAML text: what is left to read, and how far it is from the start of the
text and of its line.  YAML gives a meaning to columns, so every step keeps count.

The *breaks* of YAML are the line feed, the carriage return (also before a line feed, as one
break), U+0085, U+2028 and U+2029; the end of the text ends a word and a line like they do.
-/

set_option autoImplicit false

namespace DocViews
namespace Yaml

/-! ## Characters -/

/-- The characters that may occur in a YAML text at all. -/
def isReadable (c : Char) : Bool :=
  let n := c.toNat
  c = '\t' || c = '\n' || c = '\r' || (0x20 ≤ n && n ≤ 0x7e) || n = 0x85 ||
    (0xa0 ≤ n && n ≤ 0xd7ff) || (0xe000 ≤ n && n ≤ 0xfffd) || 0x10000 ≤ n

def isBreak (c : Char) : Bool :=
  c = '\n' || c = '\r' || c = '\u0085' || c = '\u2028' || c = '\u2029'

def isSpace (c : Char) : Bool :=
  c = ' ' || c = '\t'

/-- The characters of anchors, handles and directive names. -/
def isNameChar (c : Char) : Bool :=
  c.isAlphanum || c = '_' || c = '-'

def isHexDigit (c : Char) : Bool :=
  c.isDigit || ('a' ≤ c && c ≤ 'f') || ('A' ≤ c && c ≤ 'F')

/-- The worth of a hexadecimal digit. -/
def hexValue (c : Char) : Nat :=
  if c.isDigit then c.toNat - '0'.toNat
  else if 'a' ≤ c then c.toNat - 'a'.toNat + 10
  else c.toNat - 'A'.toNat + 10

/-- The number that a text of hexadecimal digits stands for. -/
def hexNumber (digits : Text) : Nat :=
  digits.foldl (fun n c => 16 * n + hexValue c) 0

/-- A word ends at a space, a break or the end of the text. -/
def endsWord : Text → Bool
  | [] => true
  | c :: _ => isSpace c || isBreak c

/-- A line ends at a break or the end of the text. -/
def endsLine : Text → Bool
  | [] => true
  | c :: _ => isBreak c

/-- Whether the text begins with a character. -/
def startsWith (c : Char) (text : Text) : Bool :=
  text.head? = some c

/-- Whether the text begins with a character that satisfies a test. -/
def startsWithAny (p : Char → Bool) : Text → Bool
  | [] => false
  | c :: _ => p c

/-- The three hyphens that start a document, as a word. -/
def atDocumentStart (text : Text) : Bool :=
  ['-', '-', '-'].isPrefixOf text && endsWord (text.drop 3)

/-- The three points that end a document, as a word. -/
def atDocumentEnd (text : Text) : Bool :=
  ['.', '.', '.'].isPrefixOf text && endsWord (text.drop 3)

/-! ## Cursors -/

/-- A place in a text. -/
structure Cursor where
  rest : Text
  index : Nat
  line : Nat
  column : Nat
deriving Repr

namespace Cursor

def ofText (text : Text) : Cursor :=
  ⟨text, 0, 0, 0⟩

/-- Goes on by so many characters of the same line. -/
def skip (n : Nat) (c : Cursor) : Cursor :=
  { c with rest := c.rest.drop n, index := c.index + n, column := c.column + n }

/-- The characters of the line that satisfy a test, and the place behind them. -/
def takeWhile (p : Char → Bool) (c : Cursor) : Text × Cursor :=
  let taken := c.rest.takeWhile p
  (taken, c.skip taken.length)

def skipWhile (p : Char → Bool) (c : Cursor) : Cursor :=
  (c.takeWhile p).2

/-- Reads the break at the cursor, if there is one, as the text that it stands for: the separators
U+2028 and U+2029 stand for themselves and every other break for a line feed. -/
def takeBreak (c : Cursor) : Text × Cursor :=
  match c.rest with
  | '\r' :: '\n' :: rest => (['\n'], ⟨rest, c.index + 2, c.line + 1, 0⟩)
  | b :: rest =>
    if isBreak b then
      (if b = '\u2028' || b = '\u2029' then [b] else ['\n'], ⟨rest, c.index + 1, c.line + 1, 0⟩)
    else ([], c)
  | [] => ([], c)

/-- Goes on behind the break at the cursor, if there is one. -/
def skipBreak (c : Cursor) : Cursor :=
  c.takeBreak.2

/-- Goes on to the end of a comment, if one starts here. -/
def skipComment (c : Cursor) : Cursor :=
  if startsWith '#' c.rest then c.skipWhile (!isBreak ·) else c

/-- At the start of a line, a word of three hyphens or three points belongs to no scalar. -/
def atDocumentMark (c : Cursor) : Bool :=
  c.column = 0 && (atDocumentStart c.rest || atDocumentEnd c.rest)

end Cursor
end Yaml
end DocViews
