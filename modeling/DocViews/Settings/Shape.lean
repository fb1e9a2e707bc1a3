import DocViews.Decimal.Shortest
import DocViews.Settings.Basic
import DocViews.Toml.Value

/-!
# Settings from a table

A settings table has a section for each part of the settings and in it a key for each setting.
Tables are read key by key in the order of the keys, and the first thing that does not fit ends the
reading; what a table leaves out has its stock value.  A section may also be written as an array of
its values.

`Settings.toTable` writes settings as such a table.
-/

set_option autoImplicit false

namespace DocViews

open Toml (Value Entries)

/-! ## What does not fit -/

/-- Why a value does not fit its place. -/
inductive Misfit where
  | unknownField (name : Text) (fields : List Text)
  | wrongKind (found expected : Text)
  | wrongValue (found expected : Text)
  | unknownVariant (name : Text) (variants : List Text)
  | noVariant
  | severalVariants
  | filledVariant (kind : Text)
  | noVariantTable (kind : Text)
  | tooLong (length : Nat)
deriving DecidableEq, Repr

namespace Misfit

def ticked (name : Text) : Text :=
  '\x60' :: (name ++ ['\x60'])

/-- The names that would fit. -/
def alternatives : List Text → Text
  | [a] => ticked a
  | [a, b] => ticked a ++ " or ".toList ++ ticked b
  | names => "one of ".toList ++ List.intercalate [',', ' '] (names.map ticked)

def reason : Misfit → Text
  | unknownField name fields =>
    "unknown field ".toList ++ ticked name ++ ", expected ".toList ++ alternatives fields
  | wrongKind found expected =>
    "invalid type: ".toList ++ found ++ ", expected ".toList ++ expected
  | wrongValue found expected =>
    "invalid value: ".toList ++ found ++ ", expected ".toList ++ expected
  | unknownVariant name variants =>
    "unknown variant ".toList ++ ticked name ++ ", expected ".toList ++ alternatives variants
  | noVariant => "wanted exactly 1 element, found 0 elements".toList
  | severalVariants => "wanted exactly 1 element, more than 1 element".toList
  | filledVariant kind => "expected empty ".toList ++ kind
  | noVariantTable kind => "expected table, found ".toList ++ kind
  | tooLong length =>
    "invalid length ".toList ++ Digits.ofNat length ++
      ", expected fewer elements in array".toList

end Misfit

/-- A misfit, and the keys that lead to it. -/
structure MisfitAt where
  path : List Text
  misfit : Misfit
deriving DecidableEq, Repr

namespace MisfitAt

def message (e : MisfitAt) : Text :=
  let place : Text :=
    if e.path = [] then []
    else "in ".toList ++ Misfit.ticked (List.intercalate ['.'] e.path) ++ ['\n']
  e.misfit.reason ++ '\n' :: place

end MisfitAt

/-! ## Values of a kind -/

namespace Shape

/-- What a value is, for a message. -/
def found : Value → Text
  | .string text => "string ".toList ++ Text.quoted text
  | .integer n => "integer ".toList ++ Misfit.ticked (Digits.ofInt n)
  | .float x => "floating point ".toList ++ Misfit.ticked x.positional
  | .boolean b => "boolean ".toList ++ Misfit.ticked (if b then "true".toList else "false".toList)
  | .datetime t => "string ".toList ++ Text.quoted t.text
  | .array _ => "sequence".toList
  | .table _ => "map".toList

/-- The name of the kind of a value. -/
def kind : Value → Text
  | .string _ => "string".toList
  | .integer _ => "integer".toList
  | .float _ => "float".toList
  | .boolean _ => "boolean".toList
  | .datetime _ => "datetime".toList
  | .array _ => "array".toList
  | .table _ => "table".toList

def text : Value → Except Misfit Text
  | .string s => .ok s
  | .datetime t => .ok t.text
  | v => .error (.wrongKind (found v) "a string".toList)

def texts : Value → Except Misfit (List Text)
  | .array items => items.mapM text
  | v => .error (.wrongKind (found v) "a sequence".toList)

def count : Value → Except Misfit (Option Nat)
  | .integer n =>
    if 0 ≤ n then .ok (some n.toNat)
    else .error (.wrongValue (found (.integer n)) "usize".toList)
  | v => .error (.wrongKind (found v) "usize".toList)

def precedenceNames : List (Text × Precedence) := [
  ("filename".toList, .fileName),
  ("metadata".toList, .metadata)]

def precedenceOfName (name : Text) : Except Misfit Precedence :=
  match precedenceNames.lookup name with
  | some p => .ok p
  | none => .error (.unknownVariant name (precedenceNames.map Prod.fst))

/-- A precedence by its name, or as a table whose only key is the name. -/
def precedence : Value → Except Misfit Precedence
  | .string name => precedenceOfName name
  | .table [] => .error .noVariant
  | .table [(name, inner)] => do
    let p ← precedenceOfName name
    match inner with
    | .table [] => .ok p
    | .array [] => .ok p
    | .table _ => .error (.filledVariant "table".toList)
    | .array _ => .error (.filledVariant "array".toList)
    | v => .error (.noVariantTable (kind v))
  | .table _ => .error .severalVariants
  | _ => .error (.wrongKind "unit variant".toList "string only".toList)

/-! ## Sections -/

/-- A key of a section: how its value is set. -/
structure Field (α : Type) where
  name : Text
  set : Value → α → Except Misfit α

/-- A field with a reader of its values. -/
def field {α β : Type} (name : String) (read : Value → Except Misfit β) (set : β → α → α) :
    Field α :=
  ⟨name.toList, fun v a => return set (← read v) a⟩

/-- Adds keys in front of the path of a misfit. -/
def under {α : Type} (path : List Text) : Except MisfitAt α → Except MisfitAt α
  | .ok a => .ok a
  | .error e => .error { e with path := path ++ e.path }

def atPath {α : Type} (path : List Text) : Except Misfit α → Except MisfitAt α
  | .ok a => .ok a
  | .error m => .error ⟨path, m⟩

/-- Reads the entries of a table one after another. -/
def readEntries {α : Type} (fields : List (Field α)) (start : α) :
    Entries → Except MisfitAt α
  | [] => .ok start
  | (key, value) :: rest =>
    match fields.find? (·.name = key) with
    | none => .error ⟨[], .unknownField key (fields.map Field.name)⟩
    | some f => do
      let next ← atPath [key] (f.set value start)
      readEntries fields next rest

/-- Reads the values of a section in the order of its fields. -/
def readItems {α : Type} : List (Field α) → α → List Value → Except Misfit α
  | f :: fields, start, value :: rest => do
    let next ← f.set value start
    readItems fields next rest
  | _, start, _ => .ok start

/-- Reads a section: a table of its keys, or an array of its values. -/
def readSection {α : Type} (name : Text) (fields : List (Field α)) (default : α) :
    Value → Except MisfitAt α
  | .table entries => readEntries fields default entries
  | .array items => do
    let a ← atPath [] (readItems fields default items)
    if fields.length < items.length then .error ⟨[], .tooLong items.length⟩ else .ok a
  | v => .error ⟨[], .wrongKind (found v) ("struct ".toList ++ name)⟩

/-! ## The sections of the settings -/

def conventionFields : List (Field Conventions) := [
  field "index_name" text fun t c => { c with indexName := t },
  field "generated_root" text fun t c => { c with generatedRoot := t }]

def projectFields : List (Field Text) := [
  field "descriptor_extension" text fun t _ => t]

def targetFields : List (Field Target) := [
  field "apps_segment" text fun t s => { s with appsSegment := t },
  field "extension" text fun t s => { s with extension := t },
  field "view_base" text fun t s => { s with viewBase := t },
  field "attribute" text fun t s => { s with attributeName := t },
  field "icon_type" text fun t s => { s with iconType := t },
  field "view_type" text fun t s => { s with viewType := t },
  field "imports" texts fun ts s => { s with imports := ts }]

def orderingFields : List (Field Precedence) := [
  field "precedence" precedence fun p _ => p]

def processingFields : List (Field (Option Nat)) := [
  field "max_threads" count fun n _ => n]

/-- Reads one section into the settings. -/
def readInto (key : Text) (value : Value) (s : Settings) : Except MisfitAt Settings :=
  let stock : Settings := {}
  if key = "naming".toList then do
    let c ← under [key] (readSection "NamingConfig".toList conventionFields stock.conventions value)
    return { s with conventions := c }
  else if key = "project".toList then do
    let e ← under [key]
      (readSection "ProjectConfig".toList projectFields stock.descriptorExtension value)
    return { s with descriptorExtension := e }
  else if key = "target".toList then do
    let t ← under [key] (readSection "TargetConfig".toList targetFields stock.target value)
    return { s with target := t }
  else if key = "ordering".toList then do
    let p ← under [key] (readSection "OrderingConfig".toList orderingFields stock.precedence value)
    return { s with precedence := p }
  else if key = "processing".toList then do
    let n ← under [key]
      (readSection "ProcessingConfig".toList processingFields stock.maxThreads value)
    return { s with maxThreads := n }
  else .error ⟨[], .unknownField key ["naming".toList, "project".toList, "target".toList,
    "ordering".toList, "processing".toList]⟩

end Shape

namespace Settings

/-- Reads the sections one after another. -/
def ofSections (s : Settings) : Entries → Except MisfitAt Settings
  | [] => .ok s
  | (key, value) :: rest => do
    let next ← Shape.readInto key value s
    next.ofSections rest

/-- The settings that a table describes. -/
def ofTable (entries : Entries) : Except MisfitAt Settings :=
  ofSections {} entries

/-! ## Writing -/

def precedenceName : Precedence → Text
  | .fileName => "filename".toList
  | .metadata => "metadata".toList

/-- The table that describes settings, in the order of its keys. -/
def toTable (s : Settings) : Entries :=
  let threads : Entries :=
    match s.maxThreads with
    | some n => [("max_threads".toList, .integer n)]
    | none => []
  [ ("naming".toList, .table [
      ("generated_root".toList, .string s.conventions.generatedRoot),
      ("index_name".toList, .string s.conventions.indexName)]),
    ("ordering".toList, .table [
      ("precedence".toList, .string (precedenceName s.precedence))]),
    ("processing".toList, .table threads),
    ("project".toList, .table [
      ("descriptor_extension".toList, .string s.descriptorExtension)]),
    ("target".toList, .table [
      ("apps_segment".toList, .string s.target.appsSegment),
      ("attribute".toList, .string s.target.attributeName),
      ("extension".toList, .string s.target.extension),
      ("icon_type".toList, .string s.target.iconType),
      ("imports".toList, .array (s.target.imports.map .string)),
      ("view_base".toList, .string s.target.viewBase),
      ("view_type".toList, .string s.target.viewType)])]

end Settings
end DocViews
