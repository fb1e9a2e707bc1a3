import DocViews.Proofs.Naming.Identifier
import DocViews.Settings.Resolve

/-!
# Settings whose names can stand in code

`Settings.faults` lists blank texts, names that are no identifiers and imports that are no
namespaces.  Generated code depends on the last two kinds only; settings without them have names
that *pass*.  The settings that a file describes have been checked, so theirs do.
-/

set_option autoImplicit false

namespace DocViews
namespace Settings

/-- The names and the imports pass the check: all faults, if any, are blank texts. -/
def NamesPass (s : Settings) : Prop :=
  ∀ fault ∈ s.faults, ∃ key, fault = .blank key

variable {s : Settings}

theorem namesPass_of_firstFault?_eq_none (h : s.firstFault? = none) : s.NamesPass := by
  rw [firstFault?, List.head?_eq_none_iff] at h
  intro fault hf
  rw [h] at hf
  exact absurd hf List.not_mem_nil

theorem namesPass_of_resolve {overlay : Toml.Entries} (h : resolve overlay = .ok s) :
    s.NamesPass :=
  namesPass_of_firstFault?_eq_none (resolve_eq_ok_iff.1 h).2

theorem namesPass_of_ofText {text : Text} (h : ofText text = .ok s) : s.NamesPass := by
  rw [ofText] at h
  split at h
  · exact namesPass_of_resolve h
  · exact nomatch h

namespace NamesPass

theorem isDottedPath (h : s.NamesPass) {i : Text × Text} (hi : i ∈ s.identifiers) :
    Identifier.isDottedPath i.2 = true := by
  by_contra hn
  have hfault : SettingFault.noIdentifier i.1 i.2 ∈ s.faults := by
    refine List.mem_append_left _ (List.mem_append_right _ (List.mem_map.2 ⟨i, ?_, rfl⟩))
    exact List.mem_filter.2 ⟨hi, by simpa using hn⟩
  obtain ⟨key, hkey⟩ := h _ hfault
  exact absurd hkey (by simp)

theorem isImport (h : s.NamesPass) {name : Text} (hn : name ∈ s.target.imports) :
    DocViews.isImport name = true := by
  by_contra hi
  have hfault : SettingFault.noNamespace name ∈ s.faults := by
    refine List.mem_append_right _ (List.mem_map.2 ⟨name, ?_, rfl⟩)
    exact List.mem_filter.2 ⟨hn, by simpa using hi⟩
  obtain ⟨key, hkey⟩ := h _ hfault
  exact absurd hkey (by simp)

theorem appsSegment (h : s.NamesPass) : Identifier.isDottedPath s.target.appsSegment = true :=
  h.isDottedPath (i := ("target.apps_segment".toList, _)) (by simp [identifiers])

theorem viewBase (h : s.NamesPass) : Identifier.isDottedPath s.target.viewBase = true :=
  h.isDottedPath (i := ("target.view_base".toList, _)) (by simp [identifiers])

theorem attributeName (h : s.NamesPass) : Identifier.isDottedPath s.target.attributeName = true :=
  h.isDottedPath (i := ("target.attribute".toList, _)) (by simp [identifiers])

theorem iconType (h : s.NamesPass) : Identifier.isDottedPath s.target.iconType = true :=
  h.isDottedPath (i := ("target.icon_type".toList, _)) (by simp [identifiers])

theorem viewType (h : s.NamesPass) : Identifier.isDottedPath s.target.viewType = true :=
  h.isDottedPath (i := ("target.view_type".toList, _)) (by simp [identifiers])

end NamesPass

end Settings

/-- An import is a dotted path, with a word and a space in front perhaps. -/
theorem onOneLine_of_isImport {name : Text} (h : isImport name = true) :
    Literal.OnOneLine name := by
  rw [isImport] at h
  cases hs : List.isPrefixOf? "static ".toList name with
  | none =>
    rw [hs] at h
    exact Identifier.onOneLine_of_isDottedPath h
  | some path =>
    rw [hs] at h
    rw [← List.isPrefixOf?_eq_some_iff_append_eq.1 hs]
    exact Literal.OnOneLine.append (by decide) (Identifier.onOneLine_of_isDottedPath h)

end DocViews
