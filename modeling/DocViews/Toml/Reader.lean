import DocViews.Toml.Building
import DocViews.Toml.Number

/-!
# Reading TOML

`Toml.read?` reads a TOML text and gives the entries of its table, or nothing for a text that is no
TOML.

A text is a sequence of lines: blank lines, comments, headers, and keys with values.  Arrays may go
over several lines and have comments in them; inline tables may not.  The readers of values take
the depth at which they stand, which is limited, and the characters that may be left.
-/

set_option autoImplicit false

namespace DocViews
namespace Toml

/-! ## Between values -/

/-- Drops a comment, if one starts here. -/
def dropComment (text : Text) : Text :=
  if text.head? = some '#' then text.tail.dropWhile isTextChar else text

/-- Drops spaces, line ends and comments. -/
def dropGap : Nat → Text → Text
  | 0, text => text
  | fuel + 1, text =>
    let rest := dropComment (dropBlankLines text)
    if rest.length < text.length then dropGap fuel rest else text

/-- What follows the rest of a line that holds no more than a comment. -/
def afterLine? (text : Text) : Option Text :=
  match dropComment (text.dropWhile isSpace) with
  | [] => some []
  | rest => afterLineEnd? rest

/-! ## Values -/

/-- Reads a value that has no values inside. -/
def readAtom? (text : Text) : Option (Value × Text) :=
  match text with
  | [] => none
  | c :: _ =>
    if c = '"' || c = '\'' then (readString? text).map fun (s, rest) => (.string s, rest)
    else if c = 't' then
      (List.isPrefixOf? "true".toList text).map fun rest => (.boolean true, rest)
    else if c = 'f' then
      (List.isPrefixOf? "false".toList text).map fun rest => (.boolean false, rest)
    else
      (Datetime.read? text).map (fun (t, rest) => (.datetime t, rest)) <|>
      (readFloat? text).map (fun (x, rest) => (.float x, rest)) <|>
      (readInteger? text).map (fun (n, rest) => (.integer n, rest))

mutual

def readValue? (depth : Nat) : Nat → Text → Option (Value × Text)
  | 0, _ => none
  | fuel + 1, text =>
    match text with
    | '[' :: rest =>
      if depth + 1 < depthLimit then do
        let (items, rest) ← readItems? (depth + 1) fuel rest
        return (.array items, rest)
      else none
    | '\x7b' :: rest =>
      if depth + 1 < depthLimit then do
        let (entries, rest) ← readPairs? (depth + 1) true [] fuel rest
        return (.table (Draft.finishEntries entries), rest)
      else none
    | _ => readAtom? text

/-- Reads the rest of an array, from an item or the closing bracket on. -/
def readItems? (depth : Nat) : Nat → Text → Option (List Value × Text)
  | 0, _ => none
  | fuel + 1, text =>
    match dropGap text.length text with
    | ']' :: rest => some ([], rest)
    | start => do
      let (item, rest) ← readValue? depth fuel start
      match dropGap rest.length rest with
      | ',' :: rest =>
        let (items, rest) ← readItems? depth fuel rest
        return (item :: items, rest)
      | ']' :: rest => return ([item], rest)
      | _ => none

/-- Reads the rest of an inline table.  The closing bracket may come first, but not behind a
comma. -/
def readPairs? (depth : Nat) (first : Bool) (entries : Drafts) :
    Nat → Text → Option (Drafts × Text)
  | 0, _ => none
  | fuel + 1, text =>
    match text.dropWhile isSpace, first with
    | '\x7d' :: rest, true => some (entries, rest)
    | start, _ => do
      let (path, rest) ← readKey? start
      let rest ← List.isPrefixOf? ['='] rest
      let (value, rest) ← readValue? depth fuel (rest.dropWhile isSpace)
      let entries ← Draft.addValue? path value entries
      match rest.dropWhile isSpace with
      | ',' :: rest => readPairs? depth false entries fuel rest
      | '\x7d' :: rest => some (entries, rest)
      | _ => none

end

/-! ## Documents -/

/-- The header that the lines being read belong to. -/
inductive Header where
  | root
  | table (path : List Text)
  | element (path : List Text)
deriving Repr

/-- The tables that are read, and the one that the lines belong to. -/
structure Opened where
  root : Drafts
  header : Header
  current : Drafts

namespace Opened

/-- Enters the current table into the root. -/
def close? (o : Opened) : Option Drafts :=
  match o.header with
  | .root => some o.current
  | .table path => do
    let key ← path.getLast?
    Draft.within false (fun _ entries => some (Keyed.set key (.table .header o.current) entries))
      path.dropLast .header o.root
  | .element path => do
    let key ← path.getLast?
    Draft.within false (fun _ entries =>
      match entries.lookup key with
      | none => some (Keyed.set key (.tables [o.current]) entries)
      | some (.tables elements) =>
        some (Keyed.set key (.tables (elements ++ [o.current])) entries)
      | some _ => none) path.dropLast .header o.root

/-- Opens the table of a header, which must not have one yet. -/
def openTable? (path : List Text) (o : Opened) : Option Opened := do
  let root ← o.close?
  let key ← path.getLast?
  match (← Draft.find? path.dropLast root).lookup key with
  | none => return ⟨root, .table path, []⟩
  | some (.table .implied entries) => return ⟨root, .table path, entries⟩
  | some _ => none

/-- Opens a new table of an array of tables. -/
def openElement? (path : List Text) (o : Opened) : Option Opened := do
  let root ← o.close?
  let key ← path.getLast?
  match (← Draft.find? path.dropLast root).lookup key with
  | none => return ⟨root, .element path, []⟩
  | some (.tables _) => return ⟨root, .element path, []⟩
  | some _ => none

/-- Reads a header from behind its first bracket. -/
def readHeader? (o : Opened) (text : Text) : Option (Opened × Text) :=
  match text with
  | '[' :: rest => do
    let (path, rest) ← readKey? rest
    let rest ← List.isPrefixOf? [']', ']'] rest
    return (← o.openElement? path, ← afterLine? rest)
  | _ => do
    let (path, rest) ← readKey? text
    let rest ← List.isPrefixOf? [']'] rest
    return (← o.openTable? path, ← afterLine? rest)

/-- Reads a key and its value. -/
def readEntry? (o : Opened) (text : Text) : Option (Opened × Text) := do
  let (path, rest) ← readKey? text
  let rest ← List.isPrefixOf? ['='] rest
  let (value, rest) ← readValue? 0 (2 * rest.length + 2) (rest.dropWhile isSpace)
  let current ← Draft.addValue? path value o.current
  return ({ o with current }, ← afterLine? rest)

/-- Reads lines to the end of the text. -/
def readLines? : Nat → Opened → Text → Option Opened
  | 0, _, _ => none
  | fuel + 1, o, text =>
    let start := text.dropWhile isSpace
    match start with
    | [] => some o
    | c :: rest =>
      if c = '#' || c = '\n' || c = '\r' then do readLines? fuel o (← afterLine? start)
      else if c = '[' then do
        let (o, rest) ← o.readHeader? rest
        readLines? fuel o rest
      else do
        let (o, rest) ← o.readEntry? start
        readLines? fuel o rest

end Opened

/-- Reads the entries of the table that a TOML text describes.  A byte order mark in front does not
count. -/
def read? (text : Text) : Option Entries := do
  let text := (List.isPrefixOf? ['\ufeff'] text).getD text
  let opened ← Opened.readLines? (text.length + 1) ⟨[], .root, []⟩ text
  return Draft.finishEntries (← opened.close?)

end Toml
end DocViews
