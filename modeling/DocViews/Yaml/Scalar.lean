import DocViews.Yaml.Cursor
import DocViews.Yaml.Problem

/-!
# YAML scalars

A scalar is a text in one of five styles.  This file reads each style from a cursor.

Line breaks inside a plain or a quoted scalar are *folded*: a single break counts as a space, and
of several breaks the first is dropped.  A block scalar keeps its breaks (`|`) or folds those
between lines that start with no space (`>`); what happens to the breaks at its end depends on the
sign in its header.

The readers count down the characters that are left, so that each of them ends.
-/

set_option autoImplicit false

namespace DocViews
namespace Yaml

inductive Style where
  | plain
  | singleQuoted
  | doubleQuoted
  | literal
  | folded
deriving DecidableEq, Repr

/-! ## Gaps between words -/

/-- The spaces and breaks between two words of a scalar. -/
structure Gap where
  /-- The spaces of a gap without break. -/
  spaces : Text
  firstBreak : Text
  moreBreaks : Text
  /-- Whether the next word stands on a new line. -/
  broken : Bool
deriving Repr

namespace Gap

def empty : Gap :=
  ⟨[], [], [], false⟩

/-- A gap that an escaped break has opened. -/
def escaped : Gap :=
  ⟨[], [], [], true⟩

/-- What a gap amounts to once its breaks are folded. -/
def text (gap : Gap) : Text :=
  if gap.broken then
    if gap.firstBreak = ['\n'] then
      if gap.moreBreaks = [] then [' '] else gap.moreBreaks
    else gap.firstBreak ++ gap.moreBreaks
  else gap.spaces

def addSpace (gap : Gap) (c : Char) : Gap :=
  if gap.broken then gap else { gap with spaces := gap.spaces ++ [c] }

def addBreak (gap : Gap) (b : Text) : Gap :=
  if gap.broken then { gap with moreBreaks := gap.moreBreaks ++ b }
  else ⟨[], b, [], true⟩

end Gap

/-- Reads on to the next word.  On a new line, a tab in front of the column `indent` is refused. -/
def readGap (indent : Int) : Nat → Cursor → Gap → Except Problem (Gap × Cursor)
  | 0, c, gap => .ok (gap, c)
  | fuel + 1, c, gap =>
    match c.rest with
    | [] => .ok (gap, c)
    | ch :: _ =>
      if isSpace ch then
        if gap.broken && ch = '\t' && (c.column : Int) < indent then .error .tabInIndentation
        else readGap indent fuel (c.skip 1) (gap.addSpace ch)
      else if isBreak ch then
        let (b, c) := c.takeBreak
        readGap indent fuel c (gap.addBreak b)
      else .ok (gap, c)

/-! ## Plain scalars -/

/-- The brackets and the comma, which end a plain scalar inside a flow collection. -/
def isFlowIndicator (c : Char) : Bool :=
  c = ',' || c = '[' || c = ']' || c = '\x7b' || c = '\x7d'

/-- The part of a text that belongs to a word of a plain scalar. -/
def plainWord (inFlow : Bool) : Text → Text
  | [] => []
  | c :: rest =>
    if isSpace c || isBreak c then []
    else if c = ':' && endsWord rest then []
    else if inFlow && isFlowIndicator c then []
    else if inFlow && c = ':' && startsWithAny (fun d => isFlowIndicator d || d = '?') rest then []
    else c :: plainWord inFlow rest

/-- A colon right before a flow indicator is refused in a flow collection. -/
def colonClash (inFlow : Bool) : Text → Bool
  | ':' :: rest => inFlow && startsWithAny (fun d => isFlowIndicator d || d = '?') rest
  | _ => false

/-- Reads a plain scalar word by word: the text, whether the cursor has come to a new line, and
the cursor.  `backwards` is the text so far, last character first. -/
def readPlain (inFlow : Bool) (indent : Int) :
    Nat → Cursor → Text → Gap → Except Problem (Text × Bool × Cursor)
  | 0, c, backwards, gap => .ok (backwards.reverse, gap.broken, c)
  | fuel + 1, c, backwards, gap =>
    if c.atDocumentMark || startsWith '#' c.rest then .ok (backwards.reverse, gap.broken, c)
    else
      let word := plainWord inFlow c.rest
      let after := c.skip word.length
      if colonClash inFlow after.rest then .error .colonInFlow
      else if word = [] then .ok (backwards.reverse, gap.broken, c)
      else
        let backwards := word.reverse ++ (gap.text.reverse ++ backwards)
        if endsWord after.rest && after.rest ≠ [] then do
          let (gap, next) ← readGap indent after.rest.length after .empty
          if !inFlow && (next.column : Int) < indent then
            .ok (backwards.reverse, gap.broken, next)
          else readPlain inFlow indent fuel next backwards gap
        else .ok (backwards.reverse, false, after)

/-! ## Quoted scalars -/

/-- What a character means behind a backslash. -/
inductive Escape where
  | stands (c : Char)
  | code (digits : Nat)

def escape? (c : Char) : Option Escape :=
  match c with
  | '0' => some (.stands '\x00')
  | 'a' => some (.stands '\x07')
  | 'b' => some (.stands '\x08')
  | 't' => some (.stands '\t')
  | '\t' => some (.stands '\t')
  | 'n' => some (.stands '\n')
  | 'v' => some (.stands '\x0b')
  | 'f' => some (.stands '\x0c')
  | 'r' => some (.stands '\r')
  | 'e' => some (.stands '\x1b')
  | ' ' => some (.stands ' ')
  | '"' => some (.stands '"')
  | '/' => some (.stands '/')
  | '\\' => some (.stands '\\')
  | 'N' => some (.stands '\u0085')
  | '_' => some (.stands '\u00a0')
  | 'L' => some (.stands '\u2028')
  | 'P' => some (.stands '\u2029')
  | 'x' => some (.code 2)
  | 'u' => some (.code 4)
  | 'U' => some (.code 8)
  | _ => none

/-- The character with a code point written in hexadecimal digits. -/
def charOfCode? (digits : Text) : Option Char :=
  let n := hexNumber digits
  if h : n.isValidChar then some (Char.ofNatAux n h) else none

/-- Reads a word of a quoted scalar; the result also tells whether an escaped break ended it. -/
def readQuotedWord (style : Style) : Nat → Cursor → Text → Except Problem (Text × Bool × Cursor)
  | 0, c, backwards => .ok (backwards, false, c)
  | fuel + 1, c, backwards =>
    match c.rest with
    | [] => .ok (backwards, false, c)
    | ch :: rest =>
      if isSpace ch || isBreak ch then .ok (backwards, false, c)
      else if style = .singleQuoted then
        if ch = '\'' then
          if startsWith '\'' rest then readQuotedWord style fuel (c.skip 2) ('\'' :: backwards)
          else .ok (backwards, false, c)
        else readQuotedWord style fuel (c.skip 1) (ch :: backwards)
      else if ch = '"' then .ok (backwards, false, c)
      else if ch = '\\' then
        match rest with
        | [] => .error .unknownEscape
        | e :: more =>
          if isBreak e then .ok (backwards, true, (c.skip 1).skipBreak)
          else
            match escape? e with
            | none => .error .unknownEscape
            | some (.stands s) => readQuotedWord style fuel (c.skip 2) (s :: backwards)
            | some (.code n) =>
              let digits := more.take n
              if digits.length = n && digits.all isHexDigit then
                match charOfCode? digits with
                | none => .error .escapedCode
                | some s => readQuotedWord style fuel (c.skip (2 + n)) (s :: backwards)
              else .error .escapedCode
      else readQuotedWord style fuel (c.skip 1) (ch :: backwards)

/-- Reads a quoted scalar from behind its opening quote. -/
def readQuoted (style : Style) : Nat → Cursor → Text → Except Problem (Text × Cursor)
  | 0, _, _ => .error .unclosedQuote
  | fuel + 1, c, backwards =>
    if c.atDocumentMark then .error .documentMarkInQuote
    else if c.rest = [] then .error .unclosedQuote
    else do
      let (backwards, escaped, c) ← readQuotedWord style c.rest.length c backwards
      if startsWith (if style = .singleQuoted then '\'' else '"') c.rest then
        return (backwards.reverse, c.skip 1)
      else
        let (gap, c) ← readGap (-1) c.rest.length c (if escaped then .escaped else .empty)
        readQuoted style fuel c (gap.text.reverse ++ backwards)

/-! ## Block scalars -/

/-- What becomes of the breaks at the end of a block scalar. -/
inductive Chomping where
  | strip
  | clip
  | keep
deriving DecidableEq, Repr

/-- The header of a block scalar: the chomping sign and the indentation digit, in any order. -/
def readBlockHeader (c : Cursor) : Except Problem (Chomping × Nat × Cursor) :=
  let sign (c : Cursor) : Chomping × Cursor :=
    match c.rest with
    | '+' :: _ => (.keep, c.skip 1)
    | '-' :: _ => (.strip, c.skip 1)
    | _ => (.clip, c)
  let digit (c : Cursor) : Except Problem (Nat × Cursor) :=
    match c.rest with
    | d :: _ =>
      if d = '0' then .error .zeroIndentation
      else if d.isDigit then .ok (hexValue d, c.skip 1)
      else .ok (0, c)
    | [] => .ok (0, c)
  match sign c with
  | (.clip, c) => do
    let (indent, c) ← digit c
    if indent = 0 then return (.clip, 0, c)
    else
      let (chomping, c) := sign c
      return (chomping, indent, c)
  | (chomping, c) => do
    let (indent, c) ← digit c
    return (chomping, indent, c)

/-- Reads the blank lines of a block scalar and the indentation behind them.  An indentation of 0
is still to be found: it is the widest one of these lines, and more than the parent's. -/
def readIndentation (parent : Int) :
    Nat → Nat → Nat → Cursor → Text → Except Problem (Nat × Text × Cursor)
  | 0, indent, _, c, breaks => .ok (indent, breaks, c)
  | fuel + 1, indent, widest, c, breaks =>
    let spaces := (c.rest.takeWhile (· = ' ')).length
    let c := c.skip (if indent = 0 then spaces else min spaces (indent - c.column))
    let widest := max widest c.column
    if (indent = 0 || c.column < indent) && startsWith '\t' c.rest then .error .tabInIndentation
    else if startsWithAny isBreak c.rest then
      let (b, c) := c.takeBreak
      readIndentation parent fuel indent widest c (breaks ++ b)
    else
      let found := max (max widest (parent + 1).toNat) 1
      .ok (if indent = 0 then found else indent, breaks, c)

/-- Reads the lines of a block scalar.  `lineBreak` ended the line before, `breaks` are the blank
lines after it, and `afterSpace` tells whether that line started with a space. -/
def readBlockLines (style : Style) (chomping : Chomping) (parent : Int) (indent : Nat) :
    Nat → Cursor → Text → Text → Text → Bool → Except Problem (Text × Cursor)
  | 0, c, backwards, _, _, _ => .ok (backwards.reverse, c)
  | fuel + 1, c, backwards, lineBreak, breaks, afterSpace =>
    if c.column = indent && c.rest ≠ [] then
      let startsSpaced := startsWithAny isSpace c.rest
      let folds := style = .folded && lineBreak = ['\n'] && !afterSpace && !startsSpaced
      let gap := if folds then (if breaks = [] then [' '] else breaks) else lineBreak ++ breaks
      let (line, c) := c.takeWhile (!isBreak ·)
      let (lineBreak, c) := c.takeBreak
      let backwards := line.reverse ++ (gap.reverse ++ backwards)
      do
        let (_, breaks, c) ← readIndentation parent (c.rest.length + 1) indent 0 c []
        readBlockLines style chomping parent indent fuel c backwards lineBreak breaks startsSpaced
    else
      match chomping with
      | .strip => .ok (backwards.reverse, c)
      | .clip => .ok ((lineBreak.reverse ++ backwards).reverse, c)
      | .keep => .ok ((breaks.reverse ++ (lineBreak.reverse ++ backwards)).reverse, c)

/-- Reads a block scalar from behind its indicator. -/
def readBlock (style : Style) (parent : Int) (c : Cursor) : Except Problem (Text × Cursor) := do
  let (chomping, digit, c) ← readBlockHeader c
  let c := (c.skipWhile isSpace).skipComment
  if !endsLine c.rest then throw .scalarHeader
  let c := c.skipBreak
  let indent := if digit = 0 then 0 else (max parent 0).toNat + digit
  let (indent, breaks, c) ← readIndentation parent (c.rest.length + 1) indent 0 c []
  readBlockLines style chomping parent indent (c.rest.length + 1) c [] [] breaks false

end Yaml
end DocViews
