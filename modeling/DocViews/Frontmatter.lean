import DocViews.Body

/-!
# The metadata block of a document

A document may open with a block between two fence lines, the opening one of three hyphens, the
closing one of three hyphens or three points:

    ---
    title: Getting Started
    order: 5
    ---

## Where a block is

* Blank lines may stand before the opening fence, and nothing else.
* Blanks may follow the opening hyphens on their line.
* The line after the opening fence is neither blank nor a closing fence, except in the *empty
  block*: two fence lines at the very start of the document.
* The block ends with the first closing fence: three hyphens or points, then spaces only.  The line
  end behind them is no part of the block, except in the empty block.
* A block without its closing fence takes in the next one (`Block.closed`).

## What is here

* `Block` — a document cut in three at its block; `find?` makes the cut, and `Block.source` undoes
  it.
* `innerLines` — the text between the fences.
-/

set_option autoImplicit false

namespace DocViews
namespace Frontmatter

/-- A document cut at its metadata block, fences included. -/
structure Block where
  /-- What stands before the block. -/
  lead : Text
  raw : Text
  /-- What follows the block. -/
  rest : Text
deriving DecidableEq, Repr

namespace Block

def source (block : Block) : Text :=
  block.lead ++ block.raw ++ block.rest

/-- The document without the block. -/
def remainder (block : Block) : Text :=
  block.lead ++ block.rest

/-- Where the block is, in bytes. -/
def span (block : Block) : Body.Span :=
  ⟨Text.byteSize block.lead, Text.byteSize block.lead + Text.byteSize block.raw⟩

end Block

/-! ## Fence lines -/

def hyphens : Text := ['-', '-', '-']

def points : Text := ['.', '.', '.']

/-- A line that is an opening fence once its blanks at the end are gone. -/
def isOpening (line : Text) : Bool :=
  Text.trimEnd line = hyphens

/-- A line that is a closing fence once its blanks at the end are gone. -/
def isClosing (line : Text) : Bool :=
  Text.trimEnd line = hyphens || Text.trimEnd line = points

/-! ## The empty block -/

/-- An opening fence and a closing fence on the first two lines. -/
def emptyBlock? (source : Text) : Option Block :=
  match source.pieces with
  | opening :: closing :: more =>
    if isOpening opening && isClosing closing then
      some ⟨[], opening ++ closing, more.flatten⟩
    else none
  | _ => none

/-! ## The block with content -/

/-- The blanks that a blank line may hold. -/
def isLineSpace (c : Char) : Bool :=
  c = ' ' || c = '\t' || c = '\x0b' || c = '\x0c'

/-- The blanks that may follow the opening hyphens. -/
def isFenceSpace (c : Char) : Bool :=
  c = ' ' || c = '\t' || c = '\x0c' || c = '\r'

def isLineEnd (c : Char) : Bool :=
  c = '\n' || c = '\r'

/-- What is left from the first line that is not blank; `line` is the text from the start of the
line that is being read. -/
def fromFirstLine (line : Text) : Text → Text
  | [] => []
  | c :: rest =>
    if isLineEnd c then fromFirstLine rest rest
    else if isLineSpace c then fromFirstLine line rest
    else line

/-- A line of blanks, whatever ends it. -/
def isBlankLine (piece : Text) : Bool :=
  match piece.dropWhile isLineSpace with
  | [] => true
  | c :: _ => isLineEnd c

/-- The length of the closing fence that a line begins with, spaces behind it included. -/
def fenceLength? (piece : Text) : Option Nat :=
  if hyphens.isPrefixOf piece || points.isPrefixOf piece then
    let spaces := (piece.drop 3).takeWhile (· = ' ')
    match piece.drop (3 + spaces.length) with
    | [] => some (3 + spaces.length)
    | c :: _ => if isLineEnd c then some (3 + spaces.length) else none
  else none

/-- The lines up to the end of the first closing fence, and what follows it. -/
def cutAtFence? : List Text → Option (Text × Text)
  | [] => none
  | piece :: more =>
    match fenceLength? piece with
    | some n => some (piece.take n, piece.drop n ++ more.flatten)
    | none => (cutAtFence? more).map fun cut => (piece ++ cut.1, cut.2)

/-- The block after blank lines, with at least one line between the fences. -/
def filledBlock? (source : Text) : Option Block :=
  let start := fromFirstLine source source
  match start.pieces with
  | opening :: first :: more =>
    if hyphens.isPrefixOf opening && (opening.drop 3).all (fun c => isFenceSpace c || c = '\n') &&
        !isBlankLine first && (fenceLength? first).isNone then
      (cutAtFence? more).map fun cut =>
        { lead := source.take (source.length - start.length)
          raw := opening ++ first ++ cut.1
          rest := cut.2 }
    else none
  | _ => none

/-! ## The block of a document -/

/-- The lines up to the end of the first closing fence, if only blank lines stand before it, and what
follows it. -/
def throughFence? : List Text → Option (Text × Text)
  | [] => none
  | piece :: more =>
    if isClosing piece then some (piece, more.flatten)
    else if Text.isBlankText piece then
      (throughFence? more).map fun cut => (piece ++ cut.1, cut.2)
    else none

/-- Whether the last line of a block, which is not its first one, is a closing fence. -/
def Block.isClosed (block : Block) : Bool :=
  block.raw.lines.tail.getLast?.any isClosing

/-- A block that stops short of its closing fence takes it in, so that no fence is left to the
body. -/
def Block.closed (block : Block) : Block :=
  if block.isClosed then block
  else
    match throughFence? block.rest.pieces with
    | some (fence, rest) => { block with raw := block.raw ++ fence, rest }
    | none => block

/-- The metadata block of a document. -/
def find? (source : Text) : Option Block :=
  emptyBlock? source <|> (filledBlock? source).map Block.closed

/-! ## The text between the fences -/

/-- The lines of a block without its fence lines. -/
def innerLines (raw : Text) : List Text :=
  let lines :=
    match raw.lines with
    | [] => []
    | first :: rest => if isOpening first then rest else first :: rest
  match lines.getLast? with
  | none => lines
  | some last => if isClosing last then lines.dropLast else lines

/-- The text between the fences, with line feeds between its lines. -/
def innerText (raw : Text) : Text :=
  List.intercalate ['\n'] (innerLines raw)

/-! ## Small laws -/

/-- Cutting a block out of its document by its range leaves what stands around it. -/
theorem withoutSpan?_span (block : Block) :
    Body.withoutSpan? block.source block.span = some (Body.ofSource block.remainder) := by
  have hfront : Text.splitAtByte? block.span.start block.source =
      some (block.lead, block.raw ++ block.rest) := by
    rw [Block.source, List.append_assoc]
    exact Text.splitAtByte?_byteSize _ _
  have hback : Text.splitAtByte? block.span.stop block.source =
      some (block.lead ++ block.raw, block.rest) := by
    rw [Block.source, Block.span, ← Text.byteSize_append]
    exact Text.splitAtByte?_byteSize _ _
  simp [Body.withoutSpan?, hfront, hback, Block.remainder]

end Frontmatter
end DocViews
