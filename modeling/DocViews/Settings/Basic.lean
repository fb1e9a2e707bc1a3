import DocViews.Naming.Identifier
import DocViews.Text.Blank
import DocViews.Text.Quoted

/-!
# Settings

The conventions that a run follows: how documents are named, where the project descriptor is found,
and what the generated code looks like.  Every setting has a stock value, and these are the
defaults of the structures.

`Settings.firstFault?` is the check that the names of the settings can stand in generated code.
Faults are looked for in a fixed order: settings that must not be blank, names of the target, then
imports.
-/

set_option autoImplicit false

namespace DocViews

/-- How documents and folders are named. -/
structure Conventions where
  /-- The stem of a folder's landing document, which takes its order from the folder. -/
  indexName : Text := "_Index".toList
  /-- The first folder that is left out of namespaces. -/
  generatedRoot : Text := "Generated".toList
deriving DecidableEq, Repr

/-- The shape of the generated code. -/
structure Target where
  /-- The segment between the root namespace and the suffix. -/
  appsSegment : Text := "Apps".toList
  /-- The extension of the generated files. -/
  extension : Text := "cs".toList
  /-- The base type of a view whose document names none. -/
  viewBase : Text := "ViewBase".toList
  attributeName : Text := "App".toList
  /-- The type whose members are the icons. -/
  iconType : Text := "Icons".toList
  /-- The type of the view around a body. -/
  viewType : Text := "Markdown".toList
  imports : List Text :=
    ["Ivy".toList, "Ivy.Apps".toList, "Ivy.Shared".toList, "Ivy.Core".toList, "Ivy.Views".toList]
deriving DecidableEq, Repr

/-- The source of a document's order that counts first: its file name, or its metadata. -/
inductive Precedence where
  | fileName
  | metadata
deriving DecidableEq, Repr

structure Settings where
  conventions : Conventions := {}
  /-- The extension of the project descriptor. -/
  descriptorExtension : Text := "csproj".toList
  target : Target := {}
  precedence : Precedence := .fileName
  /-- The number of workers, if it is limited. -/
  maxThreads : Option Nat := none
deriving DecidableEq, Repr

/-! ## Names that can stand in generated code -/

/-- What is wrong with the names of the settings. -/
inductive SettingFault where
  | blank (key : Text)
  | noIdentifier (key value : Text)
  | noNamespace (value : Text)
deriving DecidableEq, Repr

namespace SettingFault

def message : SettingFault → Text
  | blank key => key ++ " must not be empty".toList
  | noIdentifier key value => key ++ " must be an identifier, got ".toList ++ Text.quoted value
  | noNamespace value =>
    "target.imports entry ".toList ++ Text.quoted value ++ " is not a namespace".toList

end SettingFault

/-- Whether a text may follow `using`: a namespace, with `static ` in front perhaps. -/
def isImport (text : Text) : Bool :=
  Identifier.isDottedPath ((List.isPrefixOf? "static ".toList text).getD text)

namespace Settings

/-- The settings that must not be blank, by their keys. -/
def requiredTexts (s : Settings) : List (Text × Text) := [
  ("naming.index_name".toList, s.conventions.indexName),
  ("project.descriptor_extension".toList, s.descriptorExtension),
  ("target.extension".toList, s.target.extension)]

/-- The settings that must be identifiers or dotted paths, by their keys. -/
def identifiers (s : Settings) : List (Text × Text) := [
  ("target.apps_segment".toList, s.target.appsSegment),
  ("target.view_base".toList, s.target.viewBase),
  ("target.attribute".toList, s.target.attributeName),
  ("target.icon_type".toList, s.target.iconType),
  ("target.view_type".toList, s.target.viewType)]

/-- Everything that is wrong with the names, in the order in which it is looked for. -/
def faults (s : Settings) : List SettingFault :=
  (s.requiredTexts.filter (·.2.isBlankText)).map (.blank ·.1) ++
    (s.identifiers.filter (!Identifier.isDottedPath ·.2)).map (fun i => .noIdentifier i.1 i.2) ++
    (s.target.imports.filter (!isImport ·)).map .noNamespace

def firstFault? (s : Settings) : Option SettingFault :=
  s.faults.head?

/-- The number of workers on a machine with so many cores. -/
def threads (cores : Nat) (maxThreads : Option Nat) : Nat :=
  match maxThreads with
  | some n => min (max n 1) cores
  | none => cores

end Settings
end DocViews
