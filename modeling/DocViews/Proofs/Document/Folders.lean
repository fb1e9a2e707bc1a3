import DocViews.Proofs.Document.NameSpace

/-!
# What is made of the folders of a document

The output folder and the namespace suffix of a document are two joins of the same names: those of
its folders without their numbers, and without the names that are empty then.  Neither join loses
anything.  No name holds a slash, so the names come back from the output folder, and no identifier
holds a point or is empty, so the identifiers of the names come back from the suffix, all but that of
the generated root (`Location.ofFolder_mirrors`).
-/

set_option autoImplicit false

namespace DocViews

open Text

namespace Location

variable {generatedRoot : Text}

theorem segmentsOf_eq (names : List Text) :
    segmentsOf names = (names.map fun name => (NumberedName.ofText name).name).filter (· ≠ []) := by
  rw [segmentsOf]
  congr 1
  funext name
  cases name <;> rfl

/-- Only a first name that is the generated root is left out. -/
theorem namespaceSegments_eq (generatedRoot : Text) (segments : List Text) :
    namespaceSegments generatedRoot segments
      = if generatedRoot ≠ [] ∧ segments.head? = some generatedRoot then segments.tail
        else segments := by
  cases segments with
  | nil => simp [namespaceSegments]
  | cons first rest => simp [namespaceSegments]

theorem nil_notMem_segmentsOf (names : List Text) : [] ∉ segmentsOf names :=
  fun h => ne_nil_of_mem_segmentsOf h rfl

theorem splitOn_outputFolder {names : List Text} (hnames : ∀ name ∈ names, '/' ∉ name)
    (hne : segmentsOf names ≠ []) :
    List.splitOn '/' (ofNames generatedRoot names).outputFolder = segmentsOf names :=
  List.splitOn_intercalate '/' (fun _ => slash_notMem_of_mem_segmentsOf hnames) hne

theorem outputFolder_eq_nil_iff {names : List Text} :
    (ofNames generatedRoot names).outputFolder = [] ↔ segmentsOf names = [] :=
  intercalate_eq_nil_iff (nil_notMem_segmentsOf names)

theorem namespaceSuffix_eq_nil_iff {names : List Text} :
    (ofNames generatedRoot names).namespaceSuffix = []
      ↔ namespaceSegments generatedRoot (segmentsOf names) = [] := by
  have hempty : [] ∉ (namespaceSegments generatedRoot (segmentsOf names)).map Identifier.ofName :=
    fun h => absurd (isIdentifier_of_mem_map h) (by decide)
  exact (intercalate_eq_nil_iff hempty).trans List.map_eq_nil_iff

/-- **The folders of a document come back from what is made of them.**  The output folder, cut at its
slashes, is the folder names without their numbers, and the suffix, cut at its points, is their
identifiers; a first name that is the generated root is left out of the suffix only.  The suffix and
the name of a class are dotted paths, and their parts are not changed by another repair. -/
theorem ofFolder_mirrors (generatedRoot : Text) (folder : Path) :
    let segments := (folder.names.map fun name => (NumberedName.ofText name).name).filter (· ≠ [])
    let kept := if generatedRoot ≠ [] ∧ segments.head? = some generatedRoot then segments.tail
      else segments
    let location := ofFolder generatedRoot folder
    ((location.outputFolder = [] ↔ segments = []) ∧
      (segments ≠ [] → List.splitOn '/' location.outputFolder = segments)) ∧
    ((location.namespaceSuffix = [] ↔ kept = []) ∧
      (kept ≠ [] → Identifier.isDottedPath location.namespaceSuffix = true ∧
        List.splitOn '.' location.namespaceSuffix = kept.map Identifier.ofName)) ∧
    (∀ stem, Identifier.isDottedPath (Identifier.className stem) = true ∧
      '.' ∉ Identifier.className stem) ∧
    (∀ name, Identifier.ofName (Identifier.ofName name) = Identifier.ofName name) ∧
    (∀ part ∈ List.splitOn '.' location.namespaceSuffix, Identifier.ofName part = part) ∧
    ∀ stem, Identifier.ofName (Identifier.className stem) = Identifier.className stem := by
  intro segments kept location
  have hsegments : segments = segmentsOf folder.names := (segmentsOf_eq folder.names).symm
  have hkept : kept = namespaceSegments generatedRoot segments :=
    (namespaceSegments_eq generatedRoot segments).symm
  have hlocation : location = ofNames generatedRoot folder.names := rfl
  clear_value segments kept location
  subst hsegments hkept hlocation
  refine ⟨⟨outputFolder_eq_nil_iff, splitOn_outputFolder folder.slash_notMem_names⟩,
    ⟨namespaceSuffix_eq_nil_iff, fun hne => ?_⟩, fun stem => ?_, Identifier.ofName_ofName, ?_,
    fun stem => Identifier.ofName_eq_of_isIdentifier (Identifier.isIdentifier_className stem)⟩
  · have hsuffix : (ofNames generatedRoot folder.names).namespaceSuffix ≠ [] :=
      mt namespaceSuffix_eq_nil_iff.1 hne
    exact ⟨isDottedPath_ofNames hsuffix, splitOn_namespaceSuffix hsuffix⟩
  · have hname := Identifier.isIdentifier_className stem
    exact ⟨Identifier.isDottedPath_of_isIdentifier hname,
      Identifier.point_notMem_of_isIdentifier hname⟩
  · intro part hpart
    by_cases hsuffix : (ofNames generatedRoot folder.names).namespaceSuffix = []
    · -- the only part of an empty suffix is empty
      rw [hsuffix] at hpart
      rw [List.mem_singleton.1 hpart]
      rfl
    · rw [splitOn_namespaceSuffix hsuffix] at hpart
      exact Identifier.ofName_eq_of_isIdentifier (isIdentifier_of_mem_map hpart)

/-- Nothing is left of the first folder, the second one is the generated root, and the last one is
repaired. -/
theorem ofFolder_mirrors_generated :
    let location := ofFolder "Generated".toList ⟨"3_/./1_Generated//2_.Net 8/../Q&A".toList⟩
    ((["Generated".toList, ".Net 8".toList, "Q&A".toList] ≠ [] ∧
        [".Net 8".toList, "Q&A".toList] ≠ []) ∧
      List.splitOn '/' location.outputFolder
        = ["Generated".toList, ".Net 8".toList, "Q&A".toList] ∧
      Identifier.isDottedPath location.namespaceSuffix = true ∧
      List.splitOn '.' location.namespaceSuffix = ["_Net_8".toList, "Q_A".toList]) := by
  have hnames : (Path.mk "3_/./1_Generated//2_.Net 8/../Q&A".toList).names
      = ["3_".toList, "1_Generated".toList, "2_.Net 8".toList, "Q&A".toList] := by decide +kernel
  obtain ⟨⟨-, hfolder⟩, ⟨-, hsuffix⟩, -⟩ :=
    ofFolder_mirrors "Generated".toList ⟨"3_/./1_Generated//2_.Net 8/../Q&A".toList⟩
  rw [hnames] at hfolder hsuffix
  have hidentifiers := hsuffix (by decide +kernel)
  exact ⟨⟨by decide, by decide⟩, hfolder (by decide +kernel), hidentifiers.1,
    hidentifiers.2.trans (by decide +kernel)⟩

end Location
end DocViews
