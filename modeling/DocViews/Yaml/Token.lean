import DocViews.Text.Digits
import DocViews.Yaml.Scalar

/-!
# YAML tokens

The tokens of a YAML text: indicators, scalars, and the brackets that indentation stands for.  Tags
are kept as the octets that their escapes give.
-/

set_option autoImplicit false

namespace DocViews
namespace Yaml

inductive Token where
  | streamEnd
  | version (major minor : Nat)
  | tagHandle (handle text : Text)
  | documentStart
  | documentEnd
  | blockSequenceStart
  | blockMappingStart
  | blockEnd
  | flowSequenceStart
  | flowSequenceEnd
  | flowMappingStart
  | flowMappingEnd
  | blockEntry
  | flowEntry
  | key
  | value
  | alias (name : Text)
  | anchor (name : Text)
  | tag (handle suffix : Text)
  | scalar (style : Style) (text : Text)
deriving DecidableEq, Repr

/-! ## Anchors and aliases -/

/-- The characters that may follow the name of an anchor without a space. -/
def mayFollowName (c : Char) : Bool :=
  c = '?' || c = ':' || c = ',' || c = ']' || c = '\x7d' || c = '%' || c = '@' || c = '\x60'

/-- Reads the name behind the indicator of an anchor or an alias. -/
def readName (c : Cursor) : Except Problem (Text × Cursor) :=
  let (name, c) := c.takeWhile isNameChar
  if name ≠ [] && (endsWord c.rest || startsWithAny mayFollowName c.rest) then .ok (name, c)
  else .error .anchorName

/-! ## Tags -/

/-- The characters of a tag; the flow indicators count inside angle brackets and in a directive. -/
def isTagChar (verbatim : Bool) (c : Char) : Bool :=
  isNameChar c || [';', '/', '?', ':', '@', '&', '=', '+', '$', '.', '%', '!', '~', '*', '\'',
    '(', ')'].contains c || (verbatim && [',', '[', ']'].contains c)

/-- The length of the character that starts with an octet. -/
def octetWidth? (octet : Nat) : Option Nat :=
  if octet < 0x80 then some 1
  else if octet < 0xc0 then none
  else if octet < 0xe0 then some 2
  else if octet < 0xf0 then some 3
  else if octet < 0xf8 then some 4
  else none

/-- Reads escaped octets: the first of a character, or so many that continue it. -/
def readOctets : Nat → Text → Except Problem (Text × Text)
  | 0, text => .ok ([], text)
  | n + 1, '%' :: a :: b :: rest =>
    let octet := hexNumber [a, b]
    if isHexDigit a && isHexDigit b && 0x80 ≤ octet && octet < 0xc0 then do
      let (octets, rest) ← readOctets n rest
      return (Char.ofNat octet :: octets, rest)
    else .error .tagEscape
  | _ + 1, _ => .error .tagEscape

/-- Reads one escaped character of a tag. -/
def readEscape : Text → Except Problem (Text × Text)
  | '%' :: a :: b :: rest =>
    let octet := hexNumber [a, b]
    if isHexDigit a && isHexDigit b then
      match octetWidth? octet with
      | none => .error .tagEscape
      | some width => do
        let (octets, rest) ← readOctets (width - 1) rest
        return (Char.ofNat octet :: octets, rest)
    else .error .tagEscape
  | _ => .error .tagEscape

/-- Reads the characters of a tag. -/
def readTagChars (verbatim : Bool) : Nat → Text → Except Problem (Text × Text)
  | 0, text => .ok ([], text)
  | _ + 1, [] => .ok ([], [])
  | fuel + 1, c :: rest =>
    if !isTagChar verbatim c then .ok ([], c :: rest)
    else if c = '%' then do
      let (octets, rest) ← readEscape (c :: rest)
      let (more, rest) ← readTagChars verbatim fuel rest
      return (octets ++ more, rest)
    else do
      let (more, rest) ← readTagChars verbatim fuel rest
      return (c :: more, rest)

/-- Reads the text of a tag at the cursor. -/
def readTagText (verbatim : Bool) (c : Cursor) : Except Problem (Text × Cursor) := do
  let (text, rest) ← readTagChars verbatim c.rest.length c.rest
  return (text, c.skip (c.rest.length - rest.length))

/-- Reads a handle: an exclamation mark, or a name between two of them.  Without the second mark
it may turn out to be the start of a tag. -/
def readHandle (c : Cursor) : Except Problem (Text × Cursor) :=
  if startsWith '!' c.rest then
    let (name, next) := (c.skip 1).takeWhile isNameChar
    if startsWith '!' next.rest then .ok ('!' :: (name ++ ['!']), next.skip 1)
    else .ok ('!' :: name, next)
  else .error .tagHandle

/-- Whether a handle has both of its marks. -/
def isWholeHandle (handle : Text) : Bool :=
  2 ≤ handle.length && handle.getLast? = some '!'

/-- Reads a tag: in angle brackets, behind a handle, or behind a single mark. -/
def readTag (inFlow : Bool) (c : Cursor) : Except Problem (Token × Cursor) := do
  let (token, c) ←
    if ['!', '<'].isPrefixOf c.rest then do
      let (text, c) ← readTagText true (c.skip 2)
      if text = [] then throw .tagText
      if !startsWith '>' c.rest then throw .tagEnd
      pure (Token.tag [] text, c.skip 1)
    else do
      let (handle, next) ← readHandle c
      let (suffix, next) ← readTagText false next
      if isWholeHandle handle then
        if suffix = [] then throw .tagText
        pure (Token.tag handle suffix, next)
      else
        let text := handle.drop 1 ++ suffix
        pure (if text = [] then Token.tag [] ['!'] else Token.tag ['!'] text, next)
  if endsWord c.rest || (inFlow && startsWith ',' c.rest) then return (token, c)
  else throw .tagEnd

/-! ## Directives -/

/-- Reads a number of at most nine digits. -/
def readVersionNumber (c : Cursor) : Except Problem (Nat × Cursor) :=
  let (digits, c) := c.takeWhile Char.isDigit
  if digits = [] || 9 < digits.length then .error .versionNumber
  else .ok (Digits.value digits, c)

/-- Reads the rest of a version directive. -/
def readVersion (c : Cursor) : Except Problem (Token × Cursor) := do
  let (major, c) ← readVersionNumber (c.skipWhile isSpace)
  if !startsWith '.' c.rest then throw .versionNumber
  let (minor, c) ← readVersionNumber (c.skip 1)
  return (.version major minor, c)

/-- Reads the rest of a tag directive. -/
def readTagDirective (c : Cursor) : Except Problem (Token × Cursor) := do
  let (handle, c) ← readHandle (c.skipWhile isSpace)
  if handle ≠ ['!'] && !isWholeHandle handle then throw .tagHandle
  if !startsWithAny isSpace c.rest then throw .tagHandle
  let (text, c) ← readTagText true (c.skipWhile isSpace)
  if text = [] then throw .tagText
  if !endsWord c.rest then throw .tagEnd
  return (.tagHandle handle text, c)

/-- Reads a directive with its line end. -/
def readDirective (c : Cursor) : Except Problem (Token × Cursor) := do
  let (name, c) := (c.skip 1).takeWhile isNameChar
  if name = [] || !endsWord c.rest then throw .directiveName
  let (token, c) ←
    if name = "YAML".toList then readVersion c
    else if name = "TAG".toList then readTagDirective c
    else throw .unknownDirective
  let c := (c.skipWhile isSpace).skipComment
  if !endsLine c.rest then throw .directiveEnd
  return (token, c.skipBreak)

end Yaml
end DocViews
