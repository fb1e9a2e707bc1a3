import DocViews.Body
import DocViews.Naming.Ordinal
import DocViews.Yaml.Document

/-!
# The metadata of a document

What a document may declare about its view, in a YAML mapping with these keys:

* `icon`, `title`, `viewBase` — text, or absent;
* `order` — a whole number of 32 bits, or absent;
* `groupExpanded` — `true` or `false`, and `false` if absent.

Other keys mean nothing, whatever their values.  A known key stands at most once.  A blank text
declares nothing.
-/

set_option autoImplicit false

namespace DocViews

structure Metadata where
  icon : Option Text := none
  order : Option Int := none
  title : Option Text := none
  viewBase : Option Text := none
  groupExpanded : Bool := false
deriving DecidableEq, Repr

namespace Metadata

inductive Problem where
  | yaml (problem : Yaml.Problem)
  | noMapping
  | keyKind
  | repeatedKey (key : Text)
  | valueKind (key : Text)
deriving DecidableEq, Repr

namespace Problem

def reason : Problem → Text
  | yaml problem => problem.message
  | noMapping => "the document is not a mapping".toList
  | keyKind => "a key is not a scalar".toList
  | repeatedKey key => "duplicate field ".toList ++ key
  | valueKind key => key ++ ": invalid value".toList

def message (problem : Problem) : Text :=
  "Invalid frontmatter YAML: ".toList ++ problem.reason

end Problem

/-! ## Scalars of a kind -/

def nullTag : Text := "tag:yaml.org,2002:null".toList

def intTag : Text := "tag:yaml.org,2002:int".toList

def boolTag : Text := "tag:yaml.org,2002:bool".toList

def isNullText (text : Text) : Bool :=
  text = ['~'] || text = "null".toList || text = "Null".toList || text = "NULL".toList

/-- The digits of a base, of which there is at least one. -/
def readDigits? (base : Nat) (text : Text) : Option Nat :=
  let isDigit (c : Char) : Bool := Yaml.isHexDigit c && Yaml.hexValue c < base
  if text ≠ [] && text.all isDigit then
    some (text.foldl (fun n c => base * n + Yaml.hexValue c) 0)
  else none

/-- A number behind the mark of its base, which may have a minus sign in front. -/
def readMarked? (base : Nat) (mark text : Text) : Option Int :=
  match text with
  | '-' :: rest => ((List.isPrefixOf? mark rest).bind (readDigits? base)).map fun n => -(n : Int)
  | _ => ((List.isPrefixOf? mark text).bind (readDigits? base)).map fun n => (n : Int)

/-- A decimal number, which has no needless zero in front. -/
def readDecimal? (text : Text) : Option Int :=
  let (negative, digits) :=
    match text with
    | '-' :: rest => (true, rest)
    | _ => (false, text)
  if 1 < digits.length && digits.head? = some '0' then none
  else (readDigits? 10 digits).map fun n => if negative then -(n : Int) else n

/-- A whole number: decimal, or hexadecimal, octal or binary behind its mark.  It has one sign at
most, and a plus sign is allowed. -/
def readInt? (text : Text) : Option Int :=
  let number? (text : Text) : Option Int :=
    readMarked? 16 ['0', 'x'] text <|> readMarked? 8 ['0', 'o'] text <|>
      readMarked? 2 ['0', 'b'] text <|> readDecimal? text
  match text with
  | '+' :: '-' :: _ => none
  | '+' :: rest => number? rest
  | _ => number? text

/-- The range of an order, 32 bits with a sign. -/
def inOrderRange (n : Int) : Bool :=
  -(maxOrder : Int) - 1 ≤ n && n ≤ maxOrder

def readBool? (text : Text) : Option Bool :=
  if text = "true".toList || text = "True".toList || text = "TRUE".toList then some true
  else if text = "false".toList || text = "False".toList || text = "FALSE".toList then some false
  else none

/-! ## Values of keys -/

/-- The text of a scalar that may hold a value of a kind: a plain one, or a literal one that has
the tag of the kind. -/
def valueText? (kind : Text) : Yaml.Node → Option Text
  | .scalar _ _ .plain text => some text
  | .scalar _ tag .literal text => if tag = some kind then some text else none
  | _ => none

/-- Whether a node says that there is no value: a plain scalar that is empty or a null, or a null
by its tag.  There is no answer when the tag says null and the text does not. -/
def isAbsent? : Yaml.Node → Option Bool
  | .scalar _ (some tag) .plain text =>
    if tag = nullTag then (if isNullText text then some true else none) else some false
  | .scalar _ none .plain text => some (text = [] || isNullText text)
  | _ => some false

def textValue? : Yaml.Node → Option Text
  | .scalar _ _ _ text => some text
  | _ => none

def orderValue? (node : Yaml.Node) : Option Int :=
  ((valueText? intTag node).bind readInt?).filter inOrderRange

def flagValue? (node : Yaml.Node) : Option Bool :=
  (valueText? boolTag node).bind readBool?

/-- Reads a value that may be absent. -/
def optional? {α : Type} (value? : Yaml.Node → Option α) (node : Yaml.Node) :
    Option (Option α) := do
  if ← isAbsent? node then return none
  return some (← value? node)

/-! ## The mapping -/

/-- The node that an alias means. -/
def follow (root : Yaml.Node) : Yaml.Node → Option Yaml.Node
  | .alias anchor => root.anchored? anchor
  | node => some node

/-- The text of a key. -/
def keyOf (root key : Yaml.Node) : Except Problem Text :=
  match (follow root key).bind textValue? with
  | some text => .ok text
  | none => .error .keyKind

/-- The value of a key, or the default if the key is missing. -/
def valueOf {α : Type} (root : Yaml.Node) (entries : List (Text × Yaml.Node)) (key : Text)
    (default : α) (value? : Yaml.Node → Option α) : Except Problem α :=
  match entries.filter (·.1 = key) with
  | [] => .ok default
  | [(_, node)] =>
    match (follow root node).bind value? with
    | some value => .ok value
    | none => .error (.valueKind key)
  | _ => .error (.repeatedKey key)

/-- Reads the entries of a mapping. -/
def ofEntries (root : Yaml.Node) (entries : List (Yaml.Node × Yaml.Node)) :
    Except Problem Metadata := do
  let entries ← entries.mapM fun entry => return (← keyOf root entry.1, entry.2)
  return {
    icon := ← valueOf root entries "icon".toList none (optional? textValue?)
    order := ← valueOf root entries "order".toList none (optional? orderValue?)
    title := ← valueOf root entries "title".toList none (optional? textValue?)
    viewBase := ← valueOf root entries "viewBase".toList none (optional? textValue?)
    groupExpanded := ← valueOf root entries "groupExpanded".toList false flagValue? }

/-- Reads the root of a YAML document. -/
def ofNode (root : Yaml.Node) : Except Problem Metadata :=
  match root with
  | .mapping _ entries => ofEntries root entries
  | .scalar _ _ .plain [] => .ok {}
  | _ => .error .noMapping

/-- Reads the text between the fences of a metadata block. -/
def ofText (text : Text) : Except Problem Metadata :=
  if text.isBlankText then .ok {}
  else
    match Yaml.read text with
    | .error problem => .error (.yaml problem)
    | .ok none => .ok {}
    | .ok (some root) => ofNode root

/-! ## What the keys amount to -/

/-- A text that holds more than blanks, without the blanks around it. -/
def declared (text : Option Text) : Option Text :=
  (text.map Text.trim).filter (· ≠ [])

end Metadata
end DocViews
