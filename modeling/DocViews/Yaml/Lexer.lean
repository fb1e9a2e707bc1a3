import DocViews.Yaml.Token

/-!
# From YAML text to tokens

A YAML text has two kinds of structure.  *Flow* collections have brackets.  *Block* collections
have indentation: a token in a column to the right of the current one opens a collection, and
columns to the left close it.

A mapping key is usually recognised only at the colon behind it.  So every token that could start
such a *simple key* is remembered, and when the colon comes the key token is put in front of it,
together with the start of a block mapping if the key's column opens one.  A simple key has to end
on its own line and within 1024 characters; where the indentation leaves no other reading, a line
that begins like a key must be one.
-/

set_option autoImplicit false

namespace DocViews
namespace Yaml

/-- A token that may turn out to be the start of a simple key. -/
structure PossibleKey where
  /-- Whether the indentation leaves no other reading. -/
  required : Bool
  /-- How many tokens come before it. -/
  position : Nat
  index : Nat
  line : Nat
  column : Nat
deriving Repr

/-- The state of the reading: the cursor, the tokens so far, and the open collections. -/
structure Lexer where
  cursor : Cursor
  tokens : Array Token
  /-- The column of the innermost block collection, -1 outside of all. -/
  indent : Int
  outerIndents : List Int
  /-- The possible key of the innermost flow collection, or of the block level. -/
  key : Option PossibleKey
  /-- The possible keys around the innermost flow collection. -/
  outerKeys : List (Option PossibleKey)
  /-- Whether a simple key may start here. -/
  keyAllowed : Bool
deriving Repr

namespace Lexer

def ofText (text : Text) : Lexer :=
  ⟨.ofText text, #[], -1, [], none, [], true⟩

def inFlow (s : Lexer) : Bool :=
  !s.outerKeys.isEmpty

def column (s : Lexer) : Int :=
  s.cursor.column

def emit (token : Token) (s : Lexer) : Lexer :=
  { s with tokens := s.tokens.push token }

/-- Puts a token in front of the one that is now at a position. -/
def emitAt (position : Nat) (token : Token) (s : Lexer) : Lexer :=
  { s with tokens := s.tokens.insertIdxIfInBounds position token }

def skip (n : Nat) (s : Lexer) : Lexer :=
  { s with cursor := s.cursor.skip n }

def allowKey (allowed : Bool) (s : Lexer) : Lexer :=
  { s with keyAllowed := allowed }

/-! ## Indentation -/

/-- Opens a block collection if the column is to the right of the current one.  Its token goes to
the given position, or to the end. -/
def openBlock (column : Int) (position : Option Nat) (token : Token) (s : Lexer) : Lexer :=
  if s.inFlow || column ≤ s.indent then s
  else
    let s := { s with indent := column, outerIndents := s.indent :: s.outerIndents }
    match position with
    | some position => s.emitAt position token
    | none => s.emit token

/-- How many of the open block collections are to the right of a column, and what is left open. -/
def closing (column : Int) : Int → List Int → Nat × Int × List Int
  | indent, [] => (0, indent, [])
  | indent, outer :: more =>
    if column < indent then
      let (n, indent, left) := closing column outer more
      (n + 1, indent, left)
    else (0, indent, outer :: more)

/-- Closes the block collections to the right of a column. -/
def closeBlocks (column : Int) (s : Lexer) : Lexer :=
  if s.inFlow then s
  else
    let (n, indent, outer) := closing column s.indent s.outerIndents
    { s with
      tokens := s.tokens ++ Array.replicate n Token.blockEnd
      indent := indent
      outerIndents := outer }

/-! ## Simple keys -/

/-- Forgets a possible key that is out of reach, unless it was the only reading. -/
def checkKey (cursor : Cursor) : Option PossibleKey → Except Problem (Option PossibleKey)
  | none => .ok none
  | some key =>
    if key.line < cursor.line || key.index + 1024 < cursor.index then
      if key.required then .error .keyWithoutColon else .ok none
    else .ok (some key)

def dropStaleKeys (s : Lexer) : Except Problem Lexer := do
  let key ← checkKey s.cursor s.key
  let outerKeys ← s.outerKeys.mapM (checkKey s.cursor)
  return { s with key, outerKeys }

/-- Gives up on the possible key of this level, unless it was the only reading. -/
def dropKey (s : Lexer) : Except Problem Lexer :=
  match s.key with
  | some key => if key.required then .error .keyWithoutColon else .ok { s with key := none }
  | none => .ok s

/-- Remembers that a simple key may start with the next token. -/
def saveKey (s : Lexer) : Except Problem Lexer :=
  if s.keyAllowed then do
    let required := !s.inFlow && s.indent = s.column
    let s ← s.dropKey
    let c := s.cursor
    return { s with key := some ⟨required, s.tokens.size, c.index, c.line, c.column⟩ }
  else return s

/-! ## Between tokens -/

/-- Skips spaces, comments and breaks.  Tabs count as spaces where no indentation is read; a break
in a block lets a key start. -/
def skipToToken : Nat → Lexer → Lexer
  | 0, s => s
  | fuel + 1, s =>
    let marked := s.cursor.index = 0 && startsWith '\ufeff' s.cursor.rest
    let c := if marked then s.cursor.skip 1 else s.cursor
    let tabs := s.inFlow || !s.keyAllowed
    let c := (c.skipWhile fun ch => ch = ' ' || (tabs && ch = '\t')).skipComment
    if startsWithAny isBreak c.rest then
      let keyAllowed := if s.inFlow then s.keyAllowed else true
      skipToToken fuel { s with cursor := c.skipBreak, keyAllowed }
    else { s with cursor := c }

/-! ## Tokens -/

def fetchDirective (s : Lexer) : Except Problem Lexer := do
  let s ← (s.closeBlocks (-1)).dropKey
  let (token, cursor) ← readDirective s.cursor
  return { s with cursor, keyAllowed := false }.emit token

def fetchDocumentMark (token : Token) (s : Lexer) : Except Problem Lexer := do
  let s ← (s.closeBlocks (-1)).dropKey
  return ((s.allowKey false).skip 3).emit token

def fetchFlowStart (token : Token) (s : Lexer) : Except Problem Lexer := do
  let s ← s.saveKey
  let s := { s with key := none, outerKeys := s.key :: s.outerKeys }
  return ((s.allowKey true).skip 1).emit token

def fetchFlowEnd (token : Token) (s : Lexer) : Except Problem Lexer := do
  let s ← s.dropKey
  let s :=
    match s.outerKeys with
    | [] => s
    | key :: outerKeys => { s with key, outerKeys }
  return ((s.allowKey false).skip 1).emit token

def fetchFlowEntry (s : Lexer) : Except Problem Lexer := do
  let s ← s.dropKey
  return ((s.allowKey true).skip 1).emit .flowEntry

def fetchBlockEntry (s : Lexer) : Except Problem Lexer := do
  if !s.inFlow && !s.keyAllowed then throw .entryNotAllowed
  let s ← (s.openBlock s.column none .blockSequenceStart).dropKey
  return ((s.allowKey true).skip 1).emit .blockEntry

def fetchKey (s : Lexer) : Except Problem Lexer := do
  if !s.inFlow && !s.keyAllowed then throw .keyNotAllowed
  let s ← (s.openBlock s.column none .blockMappingStart).dropKey
  return ((s.allowKey (!s.inFlow)).skip 1).emit .key

def fetchValue (s : Lexer) : Except Problem Lexer := do
  match s.key with
  | some key =>
    let s := s.emitAt key.position .key
    let s := s.openBlock key.column (some key.position) .blockMappingStart
    return (({ s with key := none }.allowKey false).skip 1).emit .value
  | none =>
    if !s.inFlow && !s.keyAllowed then throw .valueNotAllowed
    let s := s.openBlock s.column none .blockMappingStart
    return ((s.allowKey (!s.inFlow)).skip 1).emit .value

def fetchName (token : Text → Token) (s : Lexer) : Except Problem Lexer := do
  let s ← s.saveKey
  let (name, cursor) ← readName (s.cursor.skip 1)
  return { s with cursor, keyAllowed := false }.emit (token name)

def fetchTag (s : Lexer) : Except Problem Lexer := do
  let s ← s.saveKey
  let (token, cursor) ← readTag s.inFlow s.cursor
  return { s with cursor, keyAllowed := false }.emit token

def fetchBlockScalar (style : Style) (s : Lexer) : Except Problem Lexer := do
  let s ← s.dropKey
  let (text, cursor) ← readBlock style s.indent (s.cursor.skip 1)
  return { s with cursor, keyAllowed := true }.emit (.scalar style text)

def fetchQuoted (style : Style) (s : Lexer) : Except Problem Lexer := do
  let s ← s.saveKey
  let c := s.cursor.skip 1
  let (text, cursor) ← readQuoted style (c.rest.length + 1) c []
  return { s with cursor, keyAllowed := false }.emit (.scalar style text)

def fetchPlain (s : Lexer) : Except Problem Lexer := do
  let s ← s.saveKey
  let (text, broken, cursor) ←
    readPlain s.inFlow (s.indent + 1) (s.cursor.rest.length + 1) s.cursor [] .empty
  return { s with cursor, keyAllowed := broken }.emit (.scalar .plain text)

/-- The characters that start no plain scalar. -/
def isIndicator (c : Char) : Bool :=
  ['-', '?', ':', ',', '[', ']', '\x7b', '\x7d', '#', '&', '*', '!', '|', '>', '\'', '"', '%', '@',
    '\x60'].contains c

/-- Whether a plain scalar starts here; three of the indicators may start one if a word goes on
behind them. -/
def startsPlain (inFlow : Bool) : Text → Bool
  | [] => false
  | c :: rest =>
    !(isSpace c || isBreak c || isIndicator c) ||
      (c = '-' && !startsWithAny isSpace rest) ||
      (!inFlow && (c = '?' || c = ':') && !endsWord rest)

/-- Reads the token at the cursor, which is not at the end. -/
def fetchToken (s : Lexer) : Except Problem Lexer :=
  let rest := s.cursor.rest
  let next := rest.drop 1
  let atStart := s.cursor.column = 0
  if atStart && startsWith '%' rest then s.fetchDirective
  else if atStart && atDocumentStart rest then s.fetchDocumentMark .documentStart
  else if atStart && atDocumentEnd rest then s.fetchDocumentMark .documentEnd
  else if startsWith '[' rest then s.fetchFlowStart .flowSequenceStart
  else if startsWith '\x7b' rest then s.fetchFlowStart .flowMappingStart
  else if startsWith ']' rest then s.fetchFlowEnd .flowSequenceEnd
  else if startsWith '\x7d' rest then s.fetchFlowEnd .flowMappingEnd
  else if startsWith ',' rest then s.fetchFlowEntry
  else if startsWith '-' rest && endsWord next then s.fetchBlockEntry
  else if startsWith '?' rest && (s.inFlow || endsWord next) then s.fetchKey
  else if startsWith ':' rest && (s.inFlow || endsWord next) then s.fetchValue
  else if startsWith '*' rest then s.fetchName .alias
  else if startsWith '&' rest then s.fetchName .anchor
  else if startsWith '!' rest then s.fetchTag
  else if startsWith '|' rest && !s.inFlow then s.fetchBlockScalar .literal
  else if startsWith '>' rest && !s.inFlow then s.fetchBlockScalar .folded
  else if startsWith '\'' rest then s.fetchQuoted .singleQuoted
  else if startsWith '"' rest then s.fetchQuoted .doubleQuoted
  else if startsPlain s.inFlow rest then s.fetchPlain
  else .error .strayCharacter

/-- Closes what is open at the end of the text. -/
def finish (s : Lexer) : Except Problem (Array Token) := do
  let s ← (s.closeBlocks (-1)).dropKey
  return (s.emit .streamEnd).tokens

/-- Reads tokens to the end of the text. -/
def run : Nat → Lexer → Except Problem (Array Token)
  | 0, _ => .error .unfinished
  | fuel + 1, s => do
    let s ← (skipToToken (s.cursor.rest.length + 1) s).dropStaleKeys
    let s := s.closeBlocks s.column
    if s.cursor.rest = [] then s.finish
    else run fuel (← s.fetchToken)

end Lexer

/-- The tokens of a text. -/
def tokensOf (text : Text) : Except Problem (List Token) := do
  if !text.all isReadable then throw .unreadableCharacter
  let tokens ← (Lexer.ofText text).run (text.length + 1)
  return tokens.toList

end Yaml
end DocViews
