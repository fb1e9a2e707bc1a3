import DocViews.Text.Basic

/-!
# Strings and keys in TOML

A string is *basic*, between double quotes and with escapes, or *literal*, between single quotes
and without.  Both come in a form of one line and in a form of several lines between three quotes,
where a line end right behind the opening quotes does not count, and up to two quotes may stand in
front of the closing ones.

The readers start behind the opening quotes and end behind the closing ones.
-/

set_option autoImplicit false

namespace DocViews
namespace Toml

/-- Spaces inside a line. -/
def isSpace (c : Char) : Bool :=
  c = ' ' || c = '\t'

/-- The characters of comments and strings: everything but control characters, of which the tab
alone is allowed. -/
def isTextChar (c : Char) : Bool :=
  c = '\t' || (0x20 ≤ c.toNat && c.toNat ≠ 0x7f)

/-- What follows a line end: a line feed, or a carriage return and a line feed. -/
def afterLineEnd? : Text → Option Text
  | '\n' :: rest => some rest
  | '\r' :: '\n' :: rest => some rest
  | _ => none

/-! ## Escapes -/

def isHexDigit (c : Char) : Bool :=
  c.isDigit || ('a' ≤ c && c ≤ 'f') || ('A' ≤ c && c ≤ 'F')

/-- The worth of a digit of any base up to sixteen. -/
def digitWorth (c : Char) : Nat :=
  if c.isDigit then c.toNat - '0'.toNat
  else if 'a' ≤ c then c.toNat - 'a'.toNat + 10
  else c.toNat - 'A'.toNat + 10

/-- The number that digits of a base stand for. -/
def numberIn (base : Nat) (digits : Text) : Nat :=
  digits.foldl (fun n c => base * n + digitWorth c) 0

/-- Reads the code point of a character in so many hexadecimal digits. -/
def readCodePoint? (n : Nat) (text : Text) : Option (Char × Text) :=
  let digits := text.take n
  if digits.length = n && digits.all isHexDigit then
    let code := numberIn 16 digits
    if h : code.isValidChar then some (Char.ofNatAux code h, text.drop n) else none
  else none

/-- Reads what follows a backslash. -/
def readEscape? : Text → Option (Char × Text)
  | 'b' :: rest => some ('\x08', rest)
  | 't' :: rest => some ('\t', rest)
  | 'n' :: rest => some ('\n', rest)
  | 'f' :: rest => some ('\x0c', rest)
  | 'r' :: rest => some ('\r', rest)
  | '"' :: rest => some ('"', rest)
  | '\\' :: rest => some ('\\', rest)
  | 'u' :: rest => readCodePoint? 4 rest
  | 'U' :: rest => readCodePoint? 8 rest
  | _ => none

/-! ## Strings of one line -/

def readLiteral? : Text → Option (Text × Text)
  | [] => none
  | c :: rest =>
    if c = '\'' then some ([], rest)
    else if isTextChar c then (readLiteral? rest).map fun (text, rest) => (c :: text, rest)
    else none

/-- The first argument counts the characters that may be left. -/
def readBasic? : Nat → Text → Option (Text × Text)
  | 0, _ => none
  | _ + 1, [] => none
  | fuel + 1, c :: rest =>
    if c = '"' then some ([], rest)
    else if c = '\\' then do
      let (escaped, rest) ← readEscape? rest
      let (text, rest) ← readBasic? fuel rest
      return (escaped :: text, rest)
    else if isTextChar c then (readBasic? fuel rest).map fun (text, rest) => (c :: text, rest)
    else none

/-! ## Strings of several lines -/

/-- A line end right behind the opening quotes does not count. -/
def dropFirstLineEnd (text : Text) : Text :=
  (afterLineEnd? text).getD text

/-- Drops spaces and line ends. -/
def dropBlankLines : Text → Text
  | '\r' :: '\n' :: rest => dropBlankLines rest
  | c :: rest => if isSpace c || c = '\n' then dropBlankLines rest else c :: rest
  | [] => []

/-- What is left behind a backslash at the end of a line. -/
def afterEscapedLineEnd? (text : Text) : Option Text :=
  (afterLineEnd? (text.dropWhile isSpace)).map dropBlankLines

/-- What a run of quotes means, by the length of the run: text, or the closing quotes behind so
many quotes of text. -/
def closingRun? (run : Nat) : Option Nat :=
  if run < 3 then none else some (min (run - 3) 2)

/-- Reads a string of several lines up to the closing quotes. -/
def readLines? (quote : Char) : Nat → Text → Option (Text × Text)
  | 0, _ => none
  | _ + 1, [] => none
  | fuel + 1, c :: rest =>
    if c = quote then
      let run := ((c :: rest).takeWhile (· = quote)).length
      match closingRun? run with
      | some inner => some (List.replicate inner quote, (c :: rest).drop (inner + 3))
      | none =>
        (readLines? quote fuel ((c :: rest).drop run)).map fun (text, rest) =>
          (List.replicate run quote ++ text, rest)
    else if c = '\\' && quote = '"' then
      match afterEscapedLineEnd? rest with
      | some rest => readLines? quote fuel rest
      | none => do
        let (escaped, rest) ← readEscape? rest
        let (text, rest) ← readLines? quote fuel rest
        return (escaped :: text, rest)
    else
      match afterLineEnd? (c :: rest) with
      | some rest => (readLines? quote fuel rest).map fun (text, rest) => ('\n' :: text, rest)
      | none =>
        if isTextChar c then
          (readLines? quote fuel rest).map fun (text, rest) => (c :: text, rest)
        else none

/-- Reads a string of either kind in the form of one line. -/
def readLineString? : Text → Option (Text × Text)
  | '"' :: rest => readBasic? (rest.length + 1) rest
  | '\'' :: rest => readLiteral? rest
  | _ => none

/-- Reads a string in any form. -/
def readString? (text : Text) : Option (Text × Text) :=
  match text with
  | '"' :: '"' :: '"' :: rest => readLines? '"' (rest.length + 1) (dropFirstLineEnd rest)
  | '\'' :: '\'' :: '\'' :: rest => readLines? '\'' (rest.length + 1) (dropFirstLineEnd rest)
  | _ => readLineString? text

/-! ## Keys -/

/-- The characters of a key without quotes. -/
def isBareChar (c : Char) : Bool :=
  c.isAlphanum || c = '_' || c = '-'

def readSimpleKey? (text : Text) : Option (Text × Text) :=
  match text with
  | [] => none
  | c :: _ =>
    if c = '"' || c = '\'' then readLineString? text
    else
      let key := text.takeWhile isBareChar
      if key = [] then none else some (key, text.dropWhile isBareChar)

/-- Keys and values nest less deep than this. -/
def depthLimit : Nat := 80

/-- Reads one or more simple keys with points between them; spaces may stand around each. -/
def readKeyPath? : Nat → Text → Option (List Text × Text)
  | 0, _ => none
  | fuel + 1, text => do
    let (key, rest) ← readSimpleKey? (text.dropWhile isSpace)
    match rest.dropWhile isSpace with
    | '.' :: rest =>
      let (more, rest) ← readKeyPath? fuel rest
      return (key :: more, rest)
    | rest => return ([key], rest)

/-- Reads the key in front of a value or in a header. -/
def readKey? (text : Text) : Option (List Text × Text) :=
  (readKeyPath? (text.length + 1) text).filter fun (path, _) => path.length < depthLimit

end Toml
end DocViews
