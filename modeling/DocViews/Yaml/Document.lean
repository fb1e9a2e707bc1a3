import DocViews.Yaml.Lexer
import DocViews.Yaml.Node

/-!
# From YAML tokens to the tree of a document

`Yaml.read` reads a text that holds at most one document and gives its root, or nothing for a text
without any document.

An anchor gets as its number the count of the names that are known before it.  A name that is used
again takes a new number, and aliases from there on mean the new one.

Every reader below takes at least one token for every two levels that it descends, so a multiple of
the number of tokens bounds the depth.
-/

set_option autoImplicit false

namespace DocViews
namespace Yaml

/-- What is left to read, and the names that are known so far. -/
structure Pending where
  tokens : List Token
  handles : List (Text × Text)
  anchors : List (Text × Nat)

abbrev Reader := StateT Pending (Except Problem)

namespace Reader

/-- The token that comes next. -/
def peek : Reader Token := do
  return (← get).tokens.headD .streamEnd

def skip : Reader Unit :=
  modify fun p => { p with tokens := p.tokens.tail }

/-! ## Names -/

/-- What the handles stand for where no directive says otherwise. -/
def standardHandles : List (Text × Text) := [
  (['!'], ['!']),
  (['!', '!'], "tag:yaml.org,2002:".toList)]

/-- The whole tag behind a handle. -/
def resolveTag (handle suffix : Text) : Reader Text := do
  if handle = [] then return suffix
  match (← get).handles.lookup handle with
  | some start => return start ++ suffix
  | none => throw .undefinedHandle

/-- Gives an anchor its number. -/
def nameAnchor (name : Text) : Reader Nat := do
  let p ← get
  let number := p.anchors.length
  set { p with anchors := (name, number) :: p.anchors.filter (·.1 ≠ name) }
  return number

def findAnchor (name : Text) : Reader Nat := do
  match (← get).anchors.lookup name with
  | some number => return number
  | none => throw .unknownAnchor

/-- The anchor and the tag in front of a node, in either order. -/
def properties : Reader (Option Text × Option Text) := do
  match ← peek with
  | .anchor name =>
    skip
    match ← peek with
    | .tag handle suffix => skip; return (some name, some (← resolveTag handle suffix))
    | _ => return (some name, none)
  | .tag handle suffix =>
    skip
    match ← peek with
    | .anchor name => skip; return (some name, some (← resolveTag handle suffix))
    | _ => return (none, some (← resolveTag handle suffix))
  | _ => return (none, none)

/-! ## Nodes -/

/-- Where a node stands.  The value of a block mapping may be a sequence whose entries are not
indented. -/
inductive Place where
  | flow
  | block
  | blockEntry
deriving DecidableEq

/-- The tokens in front of which an entry of an unindented sequence, or a key or a value of a block
mapping, is empty. -/
def endsEntry : Token → Bool
  | .key | .value | .blockEnd => true
  | _ => false

mutual

def node (place : Place) : Nat → Reader Node
  | 0 => throw .unfinished
  | fuel + 1 => do
    if let .alias name ← peek then
      skip
      return .alias (← findAnchor name)
    let (name, tag) ← properties
    let anchor ← name.mapM nameAnchor
    match ← peek, place with
    | .blockEntry, .blockEntry => .sequence anchor <$> unindentedItems fuel
    | .scalar style text, _ =>
      skip
      return .scalar anchor (if tag = some ['!'] then none else tag) style text
    | .flowSequenceStart, _ => skip; .sequence anchor <$> flowItems true fuel
    | .flowMappingStart, _ => skip; .mapping anchor <$> flowEntries true fuel
    | .blockSequenceStart, .block => skip; .sequence anchor <$> blockItems fuel
    | .blockSequenceStart, .blockEntry => skip; .sequence anchor <$> blockItems fuel
    | .blockMappingStart, .block => skip; .mapping anchor <$> blockEntries fuel
    | .blockMappingStart, .blockEntry => skip; .mapping anchor <$> blockEntries fuel
    | _, _ =>
      if name = none && tag = none then throw .nodeContent
      return .scalar anchor tag .plain []

def blockItems : Nat → Reader (List Node)
  | 0 => throw .unfinished
  | fuel + 1 => do
    match ← peek with
    | .blockEntry =>
      skip
      let item ←
        match ← peek with
        | .blockEntry | .blockEnd => pure Node.empty
        | _ => node .block fuel
      return item :: (← blockItems fuel)
    | .blockEnd => skip; return []
    | _ => throw .blockEntry

def unindentedItems : Nat → Reader (List Node)
  | 0 => throw .unfinished
  | fuel + 1 => do
    if (← peek) = .blockEntry then
      skip
      let next ← peek
      let item ← if next = .blockEntry || endsEntry next then pure Node.empty else node .block fuel
      return item :: (← unindentedItems fuel)
    else return []

def blockEntries : Nat → Reader (List (Node × Node))
  | 0 => throw .unfinished
  | fuel + 1 => do
    match ← peek with
    | .key =>
      skip
      let key ← if endsEntry (← peek) then pure Node.empty else node .blockEntry fuel
      let value ←
        if (← peek) = .value then
          skip
          if endsEntry (← peek) then pure Node.empty else node .blockEntry fuel
        else pure Node.empty
      return (key, value) :: (← blockEntries fuel)
    | .blockEnd => skip; return []
    | _ => throw .blockKey

/-- The items of a flow sequence; a key among them makes a mapping of one entry.  The token behind
an empty key counts as part of the key. -/
def flowItems (first : Bool) : Nat → Reader (List Node)
  | 0 => throw .unfinished
  | fuel + 1 => do
    if (← peek) = .flowSequenceEnd then skip; return []
    if !first then
      if (← peek) = .flowEntry then skip else throw .flowEntry
    match ← peek with
    | .flowSequenceEnd => skip; return []
    | .key =>
      skip
      let key ←
        match ← peek with
        | .value | .flowEntry | .flowSequenceEnd => skip; pure Node.empty
        | _ => node .flow fuel
      let value ←
        if (← peek) = .value then
          skip
          match ← peek with
          | .flowEntry | .flowSequenceEnd => pure Node.empty
          | _ => node .flow fuel
        else pure Node.empty
      return .mapping none [(key, value)] :: (← flowItems false fuel)
    | _ =>
      let item ← node .flow fuel
      return item :: (← flowItems false fuel)

def flowEntries (first : Bool) : Nat → Reader (List (Node × Node))
  | 0 => throw .unfinished
  | fuel + 1 => do
    if (← peek) = .flowMappingEnd then skip; return []
    if !first then
      if (← peek) = .flowEntry then skip else throw .flowKey
    match ← peek with
    | .flowMappingEnd => skip; return []
    | .key =>
      skip
      let key ←
        match ← peek with
        | .value | .flowEntry | .flowMappingEnd => pure Node.empty
        | _ => node .flow fuel
      let value ←
        if (← peek) = .value then
          skip
          match ← peek with
          | .flowEntry | .flowMappingEnd => pure Node.empty
          | _ => node .flow fuel
        else pure Node.empty
      return (key, value) :: (← flowEntries false fuel)
    | _ =>
      let key ← node .flow fuel
      return (key, .empty) :: (← flowEntries false fuel)

end

/-! ## Documents -/

/-- Reads the directives in front of a document. -/
def directives : Nat → Bool → List (Text × Text) → Reader Unit
  | 0, _, _ => throw .unfinished
  | fuel + 1, versionSeen, handles => do
    match ← peek with
    | .version major minor =>
      if versionSeen then throw .repeatedVersion
      if major ≠ 1 || (minor ≠ 1 && minor ≠ 2) then throw .foreignVersion
      skip
      directives fuel true handles
    | .tagHandle handle text =>
      if handles.any (·.1 = handle) then throw .repeatedHandle
      skip
      directives fuel versionSeen ((handle, text) :: handles)
    | _ => modify fun p => { p with handles := handles ++ standardHandles }

def startsDocument : Token → Bool
  | .version .. | .tagHandle .. | .documentStart => true
  | _ => false

def skipDocumentEnds : Reader Unit :=
  modify fun p => { p with tokens := p.tokens.dropWhile (· = .documentEnd) }

/-- Reads the only document of a stream. -/
def document : Reader (Option Node) := do
  let fuel := 4 * (← get).tokens.length + 8
  let first ← peek
  if first = .streamEnd then return none
  let root ←
    if startsDocument first then
      directives fuel false []
      if (← peek) ≠ .documentStart then throw .documentStart
      skip
      let next ← peek
      if startsDocument next || next = .documentEnd || next = .streamEnd then pure Node.empty
      else node .block fuel
    else
      node .block fuel
  skipDocumentEnds
  if (← peek) = .streamEnd then return some root
  else if startsDocument (← peek) then throw .severalDocuments
  else throw .documentStart

end Reader

/-- Reads the only document of a text. -/
def read (text : Text) : Except Problem (Option Node) := do
  let tokens ← tokensOf text
  Reader.document.run' ⟨tokens, Reader.standardHandles, []⟩

end Yaml
end DocViews
