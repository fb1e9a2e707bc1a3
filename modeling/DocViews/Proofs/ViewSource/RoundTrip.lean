import DocViews.Conversion.View
import DocViews.Proofs.Literal.Layout
import DocViews.Proofs.Settings.Names
import DocViews.Proofs.Text.Lines
import DocViews.Proofs.ViewSource.Attribute
import DocViews.Proofs.ViewSource.Reader

/-!
# A generated file is read back

`ViewSource.read?_write` says that a generated file can be taken apart again, whatever the document:
nothing that a title, an icon or a body holds is taken for a part of the frame.

The frame is a sequence of lines, and each of them stays one line because its variable part does
(`printable_attributeLine` is for the one with text from the document in it).  The body is held by a
literal, and a literal ends where the writer ended it, so what follows can only be the end of the
file (`readReturn?_returnStatement`).
-/

set_option autoImplicit false

namespace DocViews
namespace ViewSource

open Literal (OnOneLine OnlyNewlines codeLines)

/-! ## Lines -/

/-- Lines that are written one after another are cut where they were. -/
theorem codeLines_flatMap_line_append {lines : List Text} (h : ∀ text ∈ lines, OnOneLine text)
    (rest : Text) : codeLines (lines.flatMap line ++ rest) = lines ++ codeLines rest := by
  induction lines with
  | nil => rfl
  | cons text more ih =>
    rw [List.flatMap_cons, line, List.append_assoc, List.append_assoc, List.singleton_append,
      Literal.codeLines_append_newline (h text List.mem_cons_self),
      ih fun t ht => h t (List.mem_cons_of_mem text ht), List.cons_append]

theorem readStatement?_append (word name : Text) :
    readStatement? word (word ++ name ++ [';']) = some name := by
  rw [readStatement?, List.append_assoc, Text.isPrefixOf?_append]
  simp

/-- The line of an import. -/
def importLine (name : Text) : Text :=
  "using ".toList ++ name ++ [';']

theorem readStatement?_importLine (name : Text) :
    readStatement? "using ".toList (importLine name) = some name :=
  readStatement?_append "using ".toList name

/-- The lines of the imports, and the empty one behind them. -/
def importBlock (imports : List Text) : List Text :=
  if imports = [] then [] else imports.map importLine ++ [[]]

theorem importLines_eq (imports : List Text) :
    importLines imports = (importBlock imports).flatMap line := by
  rw [importLines, importBlock]
  split
  · rfl
  · rw [List.flatMap_append, List.flatMap_map]
    rfl

theorem onOneLine_of_mem_importBlock {imports : List Text}
    (h : ∀ name ∈ imports, OnOneLine name) {text : Text} (ht : text ∈ importBlock imports) :
    OnOneLine text := by
  rw [importBlock] at ht
  split at ht
  · exact absurd ht List.not_mem_nil
  · rcases List.mem_append.1 ht with ht | ht
    · obtain ⟨name, hname, rfl⟩ := List.mem_map.1 ht
      exact (OnOneLine.append (by decide) (h name hname)).append (by decide)
    · rw [List.mem_singleton.1 ht]
      decide

/-- The lines of the frame between the imports and the statement that returns the view. -/
def frameLines (nameSpace attributeLine className baseType : Text) : List Text := [
  "namespace ".toList ++ nameSpace ++ [';'],
  [],
  attributeLine,
  "public class ".toList ++ className ++ [' ', ':', ' '] ++ baseType,
  ['\x7b'],
  "    public override object? Build()".toList,
  "    \x7b".toList]

theorem onOneLine_of_mem_frameLines {nameSpace attributeLine className baseType : Text}
    (hspace : OnOneLine nameSpace) (hattribute : OnOneLine attributeLine)
    (hclass : OnOneLine className) (hbase : OnOneLine baseType) :
    ∀ text ∈ frameLines nameSpace attributeLine className baseType, OnOneLine text := by
  have hname : OnOneLine ("namespace ".toList ++ nameSpace ++ [';']) :=
    (OnOneLine.append (by decide) hspace).append (by decide)
  have hhead : OnOneLine ("public class ".toList ++ className ++ [' ', ':', ' '] ++ baseType) :=
    ((OnOneLine.append (by decide) hclass).append (by decide)).append hbase
  simp only [frameLines, List.forall_mem_cons]
  exact ⟨hname, by decide, hattribute, hhead, by decide, by decide, by decide, by simp⟩

theorem write_eq (target : Target) (nameSpace className : Text) (order : Int)
    (metadata : Metadata) (body : Text) :
    write target nameSpace className order metadata body
      = (importBlock target.imports ++ frameLines nameSpace (attributeLine order metadata target)
          className (baseType metadata target)).flatMap line
        ++ (returnStatement target.viewType body ++ ending) := by
  have hending : line "    \x7d".toList ++ line ['\x7d'] = ending := by decide
  rw [List.flatMap_append, ← importLines_eq, ← hending]
  simp only [write, frameLines, List.flatMap_cons, List.flatMap_nil, List.append_assoc,
    List.nil_append]

theorem readImports_map_importLine (imports rest : List Text) :
    readImports (imports.map importLine ++ rest)
      = (imports ++ (readImports rest).1, (readImports rest).2) := by
  induction imports with
  | nil => rfl
  | cons name more ih =>
    rw [List.map_cons, List.cons_append, readImports, readStatement?_importLine]
    simp only [ih, List.cons_append]

theorem readClass?_line {className baseType : Text} (h : ' ' ∉ className) :
    readClass? ("public class ".toList ++ className ++ [' ', ':', ' '] ++ baseType)
      = some (className, baseType) := by
  have hcut : className ++ ([' ', ':', ' '] ++ baseType)
      = className ++ ' ' :: ([':', ' '] ++ baseType) := rfl
  rw [readClass?, List.append_assoc, List.append_assoc, Text.isPrefixOf?_append]
  simp only [hcut, Text.splitOnce?_append h, Text.isPrefixOf?_append, Option.map_some]

/-! ## The view -/

theorem isIndent_bodyIndent : Literal.IsIndent bodyIndent :=
  fun _ h => Or.inl (List.eq_of_mem_replicate h)

/-- What follows the literal of a body. -/
def closing : Text :=
  ");\n".toList ++ ending

/-- The literal of a body is read up to the end of its statement. -/
theorem read?_literal (body : Text) :
    Literal.read? (Literal.format bodyIndent body ++ closing) = some (body, closing) := by
  have hclosing : closing.head? ≠ some '"' := by decide
  rw [Literal.format]
  cases hform : Literal.formOf body with
  | escaped => exact Literal.read?_escaped_append hclosing body
  | raw fence => exact Literal.read?_raw_append isIndent_bodyIndent hclosing hform

/-- Blanks in front of a literal are no part of it. -/
theorem trimStart_append_literal {blanks literal : Text} (hb : Text.isBlankText blanks = true)
    (hq : literal.head? = some '"') (rest : Text) :
    Text.trimStart (blanks ++ (literal ++ rest)) = literal ++ rest := by
  rw [Text.trimStart_append hb]
  cases literal with
  | nil => exact absurd hq (by simp)
  | cons c more =>
    obtain rfl : c = '"' := Option.some.inj hq
    rfl

/-- A literal is read behind its view type and any blanks. -/
theorem readNew?_append {viewType blanks literal body : Text} (ht : '(' ∉ viewType)
    (hb : Text.isBlankText blanks = true) (hq : literal.head? = some '"')
    (hread : Literal.read? (literal ++ closing) = some (body, closing)) :
    readNew? (viewType ++ '(' :: (blanks ++ (literal ++ closing))) = some (viewType, body) := by
  rw [readNew?, Text.splitOnce?_append ht]
  simp only [trimStart_append_literal hb hq, hread]
  exact if_pos rfl

theorem readReturn?_new (text : Text) :
    readReturn? ("        return new ".toList ++ text) = (readNew? text).map some := by
  have hnull : List.isPrefixOf? "        return null;\n".toList
      ("        return new ".toList ++ text) = none := rfl
  simp only [readReturn?, hnull, Text.isPrefixOf?_append]

/-- The statement that builds a view is the same in both of its layouts but for the blanks in front
of the literal. -/
theorem returnStatement_eq {body : Text} (hbody : body ≠ []) (viewType : Text) :
    ∃ blanks, Text.isBlankText blanks = true ∧ OnlyNewlines blanks ∧
      returnStatement viewType body
        = "        return new ".toList ++ (viewType ++ '(' ::
            (blanks ++ (Literal.format bodyIndent body ++ ");\n".toList))) := by
  rw [returnStatement, if_neg hbody]
  generalize Literal.format bodyIndent body = literal
  simp only
  split
  · refine ⟨'\n' :: bodyIndent, by decide,
      isIndent_bodyIndent.onOneLine.onlyNewlines.cons_newline, ?_⟩
    simp only [line, List.append_assoc, List.cons_append, List.nil_append]
    rfl
  · refine ⟨[], rfl, fun _ h => absurd h List.not_mem_nil, ?_⟩
    simp only [line, List.append_assoc, List.cons_append, List.nil_append]
    rfl

/-- **The statement that returns the view is read back**, in both of its layouts. -/
theorem readReturn?_returnStatement {viewType : Text} (ht : '(' ∉ viewType) (body : Text) :
    readReturn? (returnStatement viewType body ++ ending)
      = some (if body = [] then none else some (viewType, body)) := by
  by_cases hbody : body = []
  · rw [returnStatement, if_pos hbody, if_pos hbody]
    rfl
  · obtain ⟨blanks, hblank, -, heq⟩ := returnStatement_eq hbody viewType
    have hnew := readNew?_append ht hblank (Literal.head?_format bodyIndent body)
      (read?_literal body)
    rw [if_neg hbody, heq, List.append_assoc, readReturn?_new]
    simp only [List.append_assoc, List.cons_append]
    exact congrArg (Option.map some) hnew

theorem onlyNewlines_returnStatement {viewType : Text} (ht : OnOneLine viewType) (body : Text) :
    OnlyNewlines (returnStatement viewType body) := by
  by_cases hbody : body = []
  · rw [returnStatement, if_pos hbody]
    exact (show OnOneLine "        return null;".toList by decide).onlyNewlines.append
      fun _ hc _ => List.mem_singleton.1 hc
  · obtain ⟨blanks, -, hblanks, heq⟩ := returnStatement_eq hbody viewType
    have hstart : OnOneLine ("        return new ".toList ++ viewType ++ ['(']) :=
      (OnOneLine.append (by decide) ht).append (by decide)
    have hend : OnlyNewlines ");\n".toList := by decide
    have hliteral : OnlyNewlines (Literal.format bodyIndent body) :=
      Literal.onlyNewlines_format isIndent_bodyIndent body
    have hall := hstart.onlyNewlines.append (hblanks.append (hliteral.append hend))
    rw [heq]
    simpa only [List.append_assoc, List.singleton_append] using hall

/-! ## The file -/

/-- The imports are told from the lines behind them. -/
theorem read?_eq_readClassFile? {imports lines : List Text} {file : Text}
    (h : codeLines file = importBlock imports ++ lines) (hl : readImports lines = ([], lines)) :
    read? file = readClassFile? imports lines := by
  rw [read?, h, importBlock]
  by_cases himports : imports = []
  · rw [if_pos himports, List.nil_append, hl, himports]
  · have hblank : readImports ([] :: lines) = ([], [] :: lines) := rfl
    rw [if_neg himports, List.append_assoc, List.singleton_append, readImports_map_importLine,
      hblank, List.append_nil]
    split
    · next hpair => exact absurd (Prod.mk.inj hpair).1 himports
    · next hpair =>
      obtain ⟨rfl, hrest⟩ := Prod.mk.inj hpair
      rw [(List.cons.inj hrest).2]
    · next hother => exact absurd rfl (hother imports lines)

theorem readClassFile?_frameLines {imports : List Text} {statement : Text}
    {nameSpace attributeLine className baseType : Text} {view : Option (Text × Text)}
    (hname : ' ' ∉ className) (hs : OnlyNewlines statement)
    (hv : readReturn? statement = some view) :
    readClassFile? imports
        (frameLines nameSpace attributeLine className baseType ++ codeLines statement)
      = some { imports, nameSpace, attributeLine, className, baseType, view } := by
  simp only [frameLines, List.cons_append, List.nil_append]
  rw [readClassFile?, if_pos ⟨rfl, rfl⟩, readStatement?_append, readClass?_line hname,
    Literal.intercalate_codeLines hs, hv]
  rfl

theorem space_notMem_className (stem : Text) : ' ' ∉ Identifier.className stem := by
  rw [Identifier.className, List.mem_append, not_or]
  refine ⟨fun h => ?_, by decide⟩
  have hchar : Identifier.isIdentifierChar ' ' = true := Identifier.isIdentifierChar_of_mem_ofName h
  rw [Identifier.isIdentifierChar_separator ' ' (by decide)] at hchar
  exact absurd hchar (by decide)

/-- A base type that passes the check is a dotted path, whether it is declared or not. -/
theorem isDottedPath_baseType {settings : Settings} {metadata : Metadata}
    (hnames : settings.NamesPass) (hbase : View.checkBase metadata = .ok ()) :
    Identifier.isDottedPath (baseType metadata settings.target) = true := by
  rw [View.checkBase] at hbase
  rw [baseType]
  cases hd : Metadata.declared metadata.viewBase with
  | none => exact hnames.viewBase
  | some name =>
    rw [hd] at hbase
    simp only at hbase
    split at hbase
    · assumption
    · exact absurd hbase (by simp)

/-- **A generated file is read back**: from the settings' names and a base type that passes the
check, a reader of the frame finds each part as it was, and no body is taken for code.  There is no
view exactly when the body is empty. -/
theorem read?_write {settings : Settings} {nameSpace : Text} {metadata : Metadata}
    (hnames : settings.NamesPass) (hspace : OnOneLine nameSpace)
    (hbase : View.checkBase metadata = .ok ()) (stem : Text) (order : Int) (body : Text) :
    read? (write settings.target nameSpace (Identifier.className stem) order metadata body)
      = some {
          imports := settings.target.imports
          nameSpace
          attributeLine := attributeLine order metadata settings.target
          className := Identifier.className stem
          baseType := ((metadata.viewBase.map Text.trim).filter (· ≠ [])).getD
            settings.target.viewBase
          view := if body = [] then none else some (settings.target.viewType, body) } := by
  have hview : Identifier.isDottedPath settings.target.viewType = true := hnames.viewType
  have hparen : '(' ∉ settings.target.viewType := Identifier.notMem_of_isDottedPath hview
    (Identifier.isIdentifierChar_separator '(' (by decide)) (by decide)
  have hstatement : OnlyNewlines (returnStatement settings.target.viewType body ++ ending) :=
    (onlyNewlines_returnStatement (Identifier.onOneLine_of_isDottedPath hview) body).append
      (by decide)
  have himports : ∀ text ∈ importBlock settings.target.imports, OnOneLine text :=
    fun _ ht => onOneLine_of_mem_importBlock
      (fun name hn => onOneLine_of_isImport (hnames.isImport hn)) ht
  have hattribute : OnOneLine (attributeLine order metadata settings.target) :=
    (printable_attributeLine order hnames.attributeName hnames.iconType).onOneLine
  have hclass : OnOneLine (Identifier.className stem) :=
    (Identifier.onOneLine_ofName stem).append (by decide)
  have hframe := onOneLine_of_mem_frameLines hspace hattribute hclass
    (Identifier.onOneLine_of_isDottedPath (isDottedPath_baseType hnames hbase))
  have hlines := codeLines_flatMap_line_append (List.forall_mem_append.2 ⟨himports, hframe⟩)
    (returnStatement settings.target.viewType body ++ ending)
  rw [write_eq, read?_eq_readClassFile? (hlines.trans (List.append_assoc _ _ _)) rfl]
  exact readClassFile?_frameLines (space_notMem_className stem) hstatement
    (readReturn?_returnStatement hparen body)

/-- A body that holds the end of a class and a fence, under the stock settings. -/
theorem read?_write_stock :
    (Settings.NamesPass {} ∧ OnOneLine "Acme.Apps".toList ∧
      View.checkBase { viewBase := some " SampleBase ".toList } = .ok ()) ∧
    read? (write {} "Acme.Apps".toList (Identifier.className "Q&A".toList) 3
        { viewBase := some " SampleBase ".toList } "\"\"\"\n);\n    \x7d\n\x7d".toList)
      = some {
          imports := ({} : Target).imports
          nameSpace := "Acme.Apps".toList
          attributeLine := attributeLine 3 { viewBase := some " SampleBase ".toList } {}
          className := Identifier.className "Q&A".toList
          baseType := "SampleBase".toList
          view := some ("Markdown".toList, "\"\"\"\n);\n    \x7d\n\x7d".toList) } :=
  have hnames : Settings.NamesPass {} :=
    Settings.namesPass_of_firstFault?_eq_none (by decide +kernel)
  have hspace : OnOneLine "Acme.Apps".toList := by decide
  have hbase : View.checkBase { viewBase := some " SampleBase ".toList } = .ok () := by
    decide +kernel
  ⟨⟨hnames, hspace, hbase⟩, read?_write hnames hspace hbase _ _ _⟩

end ViewSource
end DocViews
