import DocViews.Text.Blank

/-!
# String literals of the generated code

A document is embedded in the generated code as a string literal, in one of two forms:

* *escaped*: one line between double quotes, with escape sequences; it can hold any text;
* *raw*: lines between two fences of double quotes, each line behind the indentation of the closing
  fence, which the compiler strips; it reads like the document.

The raw form is used for a text with a line break or a quote, if it reproduces the text exactly:
no control character but line feed and tab, no other line break, and no line of blanks.  Its fence
is one quote longer than the longest run of quotes in the text, and at least three.
-/

set_option autoImplicit false

namespace DocViews
namespace Literal

/-- The two ways to write a text; a fence is given by its length. -/
inductive Form where
  | escaped
  | raw (fence : Nat)
deriving DecidableEq, Repr

/-- The characters that end a line of code. -/
def isLineBreak (c : Char) : Bool :=
  c = '\n' || c = '\r' || c = '\u0085' || c = '\u2028' || c = '\u2029'

/-! ## Choosing the form -/

/-- A character that a raw literal cannot carry. -/
def isRawUnsafe (c : Char) : Bool :=
  c ≠ '\n' && c ≠ '\t' && (isControl c || isLineBreak c)

/-- A line that holds blanks and nothing else. -/
def isPaddedLine (line : Text) : Bool :=
  line ≠ [] && Text.isBlankText line

/-- Whether a raw literal reproduces the text exactly. -/
def canEmbedRaw (text : Text) : Bool :=
  !text.any isRawUnsafe && !(List.splitOn '\n' text).any isPaddedLine

/-- The longest run of quotes, given the length of the run that the text goes on with and the
longest run before it. -/
def longestQuoteRunFrom (run longest : Nat) : Text → Nat
  | [] => longest
  | c :: rest =>
    if c = '"' then longestQuoteRunFrom (run + 1) (max longest (run + 1)) rest
    else longestQuoteRunFrom 0 longest rest

def longestQuoteRun (text : Text) : Nat :=
  longestQuoteRunFrom 0 0 text

/-- Whether the text asks for the raw form. -/
def wantsRaw (text : Text) : Bool :=
  text.any fun c => isLineBreak c || c = '"'

def formOf (text : Text) : Form :=
  if wantsRaw text && canEmbedRaw text then .raw (max (longestQuoteRun text) 2 + 1) else .escaped

/-! ## Writing -/

/-- A code point in four hexadecimal digits, upper case. -/
def hex4 (n : Nat) : Text :=
  List.leftpad 4 '0' ((Nat.toDigits 16 n).map Char.toUpper)

/-- One character inside an escaped literal. -/
def escapeChar (c : Char) : Text :=
  if c = '\\' then ['\\', '\\']
  else if c = '"' then ['\\', '"']
  else if c = '\n' then ['\\', 'n']
  else if c = '\r' then ['\\', 'r']
  else if c = '\t' then ['\\', 't']
  else if c = '\x00' then ['\\', '0']
  else if isControl c || isLineBreak c then '\\' :: 'u' :: hex4 c.toNat
  else [c]

/-- The escaped form: always valid, always on one line. -/
def escaped (text : Text) : Text :=
  '"' :: (text.flatMap escapeChar ++ ['"'])

/-- A line of a raw literal; an empty line stays bare. -/
def rawLine (indent line : Text) : Text :=
  if line = [] then ['\n'] else indent ++ line ++ ['\n']

/-- The raw form.  The place of the opening fence is up to the caller. -/
def raw (fence : Nat) (indent text : Text) : Text :=
  let quotes := List.replicate fence '"'
  quotes ++ '\n' :: ((List.splitOn '\n' text).flatMap (rawLine indent) ++ (indent ++ quotes))

/-- The literal for a text; the lines of a raw literal stand behind the indentation. -/
def format (indent text : Text) : Text :=
  match formOf text with
  | .escaped => escaped text
  | .raw fence => raw fence indent text

end Literal
end DocViews
