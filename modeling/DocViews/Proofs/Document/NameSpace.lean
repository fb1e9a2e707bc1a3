import DocViews.Proofs.Document.Output
import DocViews.Proofs.Naming.DottedPath

/-!
# The namespace of a document

Behind the root and the conventional segment of a namespace stand the folder names of the document.
They have been repaired, whatever folders there are, so the suffix is a dotted path unless it is
empty (`Location.isDottedPath_ofNames`).  A namespace is its root with a dotted path below it, if
the conventional segment is one (`exists_below_of_fullNamespace`).
-/

set_option autoImplicit false

namespace DocViews
namespace Location

variable {generatedRoot : Text} {names : List Text}

theorem mem_of_mem_namespaceSegments {segments : List Text} {segment : Text}
    (h : segment ∈ namespaceSegments generatedRoot segments) : segment ∈ segments := by
  cases segments with
  | nil => exact h
  | cons first rest =>
    rw [namespaceSegments] at h
    split at h
    · exact List.mem_cons_of_mem _ h
    · exact h

theorem isIdentifier_of_mem_map {part : Text}
    (h : part ∈ (namespaceSegments generatedRoot (segmentsOf names)).map Identifier.ofName) :
    Identifier.isIdentifier part = true := by
  obtain ⟨name, hname, rfl⟩ := List.mem_map.1 h
  exact Identifier.isIdentifier_ofName
    (ne_nil_of_mem_segmentsOf (mem_of_mem_namespaceSegments hname))

/-- The segments of a suffix are the identifiers that it is made of. -/
theorem splitOn_namespaceSuffix (hne : (ofNames generatedRoot names).namespaceSuffix ≠ []) :
    List.splitOn '.' (ofNames generatedRoot names).namespaceSuffix
      = (namespaceSegments generatedRoot (segmentsOf names)).map Identifier.ofName := by
  have hsome : (namespaceSegments generatedRoot (segmentsOf names)).map Identifier.ofName ≠ [] := by
    intro hnil
    rw [ofNames, hnil] at hne
    exact hne rfl
  exact Identifier.splitOn_intercalate_identifiers hsome fun _ => isIdentifier_of_mem_map

/-- **A namespace suffix is a dotted path**, whatever the folders are called. -/
theorem isDottedPath_ofNames (hne : (ofNames generatedRoot names).namespaceSuffix ≠ []) :
    Identifier.isDottedPath (ofNames generatedRoot names).namespaceSuffix = true := by
  rw [Identifier.isDottedPath, splitOn_namespaceSuffix hne, List.all_eq_true]
  exact fun _ => isIdentifier_of_mem_map

end Location

/-- **A namespace is its root, and a dotted path below it.** -/
theorem exists_below_of_fullNamespace (root : Text) {apps suffix : Text}
    (happs : Identifier.isDottedPath apps = true)
    (hsuffix : suffix ≠ [] → Identifier.isDottedPath suffix = true) :
    ∃ below, fullNamespace root apps suffix = root ++ '.' :: below ∧
      Identifier.isDottedPath below = true := by
  rw [fullNamespace]
  split
  · exact ⟨apps, rfl, happs⟩
  · next hne => exact ⟨_, rfl, Identifier.isDottedPath_append_point.2 ⟨happs, hsuffix hne⟩⟩

end DocViews
