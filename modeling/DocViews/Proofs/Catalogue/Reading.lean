import DocViews.Proofs.Catalogue.Paths
import DocViews.Proofs.FileSystem.Places

/-!
# The way to a document

A document is read by the path from the root of the disk.  This path says the steps of the working
folder and then those of the file (`Path.components_absolute`), so it leads to the same place
(`Path.resolve_absolute`), and what is missing on its way is missing on the way of the file
(`FileSystem.missing?_absolute`).  Where the root is there, nothing is missing on the way to a file
below it (`Catalogue.missing?_pathOf`), whatever has been made elsewhere in the meantime.
-/

set_option autoImplicit false

namespace DocViews

open Node

/-! ## Absolute paths -/

namespace Path

/-- Steps that are written below a path come behind its own. -/
theorem components_foldl_join {start : Path} (hstart : start.text ≠ []) {steps : List Component}
    (h : ∀ step ∈ steps, IsInner step) :
    (steps.foldl (fun path step => path.join ⟨step.text⟩) start).text ≠ [] ∧
      (steps.foldl (fun path step => path.join ⟨step.text⟩) start).components
        = start.components ++ steps := by
  induction steps generalizing start with
  | nil => exact ⟨hstart, (List.append_nil _).symm⟩
  | cons step rest ih =>
    have hstep := h step List.mem_cons_self
    have hsegments : (Path.mk step.text).segments = [step.text] := List.splitOn_eq_singleton hstep.2
    have hjoin : (start.join ⟨step.text⟩).components = start.components ++ [step] := by
      rw [components_join hstart hstep.isAbsolute_eq_false, hsegments,
        List.filterMap_cons_some hstep.1, List.filterMap_nil]
    have hne : (start.join ⟨step.text⟩).text ≠ [] := by
      obtain ⟨front, hfront⟩ := exists_text_join start ⟨step.text⟩
      rw [hfront]
      exact List.append_ne_nil_of_right_ne_nil _ hstep.text_ne_nil
    obtain ⟨htext, hcomponents⟩ := ih hne fun s hs => h s (List.mem_cons_of_mem _ hs)
    rw [List.foldl_cons]
    exact ⟨htext, by rw [hcomponents, hjoin, List.append_assoc, List.singleton_append]⟩

/-- Apart from its start, a path says inner steps. -/
theorem isInner_of_mem_components {path : Path} {step : Component} (h : step ∈ path.components)
    (hroot : step ≠ .root) (hhere : step ≠ .here) : IsInner step := by
  have hsound := path.sound_components
  generalize path.components = steps at h hsound
  cases hsound with
  | relative hinner => exact hinner step h
  | here hinner => exact hinner step ((List.mem_cons.1 h).resolve_left hhere)
  | absolute hinner => exact hinner step ((List.mem_cons.1 h).resolve_left hroot)

/-- **An absolute path says the steps of the working folder, and then those of the path.** -/
theorem components_absolute {working path : Path} (hworking : working.text ≠ [])
    (htext : path.text ≠ []) :
    (absolute working path).components
      = (if path.isAbsolute then [.root] else working.components)
        ++ path.components.filter fun step => step != .root && step != .here := by
  have hinner : ∀ step ∈ path.components.filter fun step => step != .root && step != .here,
      IsInner step := by
    intro step hstep
    obtain ⟨hmem, htest⟩ := List.mem_filter.1 hstep
    rw [Bool.and_eq_true, bne_iff_ne, bne_iff_ne] at htest
    exact isInner_of_mem_components hmem htest.1 htest.2
  have hstart : ∀ start : Path, start.text ≠ [] →
      ∀ full, full = (path.components.filter fun step => step != .root && step != .here).foldl
        (fun p step => p.join ⟨step.text⟩) start →
      (if path.text.getLast? = some '/' then full.join ⟨[]⟩ else full).components
        = start.components
          ++ path.components.filter fun step => step != .root && step != .here := by
    rintro start hne full rfl
    obtain ⟨htext, hcomponents⟩ := components_foldl_join hne hinner
    split
    · rw [components_join htext rfl, hcomponents]
      exact List.append_nil _
    · exact hcomponents
  rw [absolute, if_neg htext]
  cases habs : path.isAbsolute with
  | false => exact hstart working hworking _ rfl
  | true =>
    simp only [if_true]
    -- However many slashes it begins with, the start says the root.
    refine (hstart _ ?_ _ rfl).trans (congrArg (· ++ _) ?_)
    · split <;> simp
    · split <;> rfl

/-- The segments of an absolute path, behind those of the working folder. -/
theorem filterMap_segment?_absolute {place : Place} (hplace : ∀ name ∈ place, IsName name)
    {path : Path} (htext : path.text ≠ []) :
    (absolute (ofPlace place) path).isAbsolute = true ∧
      (absolute (ofPlace place) path).components.filterMap Component.segment?
        = (if path.isAbsolute then [] else place)
          ++ path.components.filterMap Component.segment? := by
  have hloud : ∀ steps : List Component,
      (steps.filter fun step => step != .root && step != .here).filterMap Component.segment?
        = steps.filterMap Component.segment? := by
    intro steps
    rw [List.filterMap_filter]
    refine List.filterMap_congr fun step _ => ?_
    cases step <;> rfl
  have hcomponents := components_absolute (show (ofPlace place).text ≠ [] from nofun) htext
  rw [components_ofPlace hplace] at hcomponents
  rw [isAbsolute_iff, hcomponents, List.filterMap_append, hloud]
  cases path.isAbsolute with
  | true => exact ⟨rfl, rfl⟩
  | false =>
    refine ⟨rfl, congrArg (· ++ _) ?_⟩
    exact filterMap_segment?_names place

/-- **An absolute path leads where the path leads from the working folder.** -/
theorem resolve_absolute {place : Place} (hplace : ∀ name ∈ place, IsName name) {path : Path}
    (htext : path.text ≠ []) (base : Place) :
    (absolute (ofPlace place) path).resolve base = path.resolve place := by
  obtain ⟨habs, hsegments⟩ := filterMap_segment?_absolute hplace htext
  rw [resolve_eq_along, resolve_eq_along, habs, hsegments, Place.along_append, if_pos rfl]
  split
  · rfl
  · rw [Place.along_names hplace, List.nil_append]

end Path

/-! ## What is missing on the way -/

/-- **What is missing on the way of an absolute path is missing on the way of the path.** -/
theorem FileSystem.missing?_absolute {fs : FileSystem}
    (hplace : ∀ name ∈ fs.workingFolder, Path.IsName name)
    (hhome : faceAt fs.workingFolder fs.tree = some emptyFolder) {path : Path}
    (htext : path.text ≠ []) :
    fs.missing? (Path.absolute (Path.ofPlace fs.workingFolder) path) = fs.missing? path := by
  obtain ⟨habs, hsegments⟩ := Path.filterMap_segment?_absolute hplace htext
  rw [missing?_eq, missing?_eq, hsegments, startOf, startOf, habs, if_pos rfl]
  split
  · rfl
  · have hthere : firstMissing? fs.tree fs.workingFolder [] = none :=
      firstMissing?_names hplace (by simp [hhome])
    rw [firstMissing?_append _ hthere, Place.along_names hplace, List.nil_append]

namespace Catalogue

theorem resolve_pathOf (root : Path) {names : List Text} (h : ∀ name ∈ names, Path.IsName name)
    (base : Place) : (pathOf root names).resolve base = root.resolve base ++ names := by
  rw [Path.resolve, components_pathOf root h, List.foldl_append, Place.foldl_onward_names]
  rfl

/-- **Below a root that is there, nothing is missing on the way to a file.** -/
theorem missing?_pathOf {fs : FileSystem} (hlinks : fs.tree.LinkFree) {root : Path} {place : Place}
    (hroot : fs.spot true root = .ok (.taken place)) {names : List Text}
    (h : ∀ name ∈ names, Path.IsName name) (hthere : faceAt (place ++ names) fs.tree ≠ none) :
    fs.missing? (pathOf root names) = none := by
  have htext : root.text ≠ [] := FileSystem.text_ne_nil_of_spot hroot
  have hstart : fs.startOf (pathOf root names) = fs.startOf root := by
    refine FileSystem.startOf_eq ?_ fs
    rw [components_pathOf root h, List.head?_append_of_ne_nil _ (Path.components_ne_nil htext)]
  have hway : FileSystem.firstMissing? fs.tree
      (root.components.filterMap Component.segment?) (fs.startOf root) = none := by
    rw [← FileSystem.missing?_eq]
    exact FileSystem.firstMissing?_of_walk hlinks (FileSystem.walk_of_spot hlinks hroot)
  have hplace : (fs.startOf root).along (root.components.filterMap Component.segment?) = place := by
    have hspot := FileSystem.spot_place hlinks hroot
    rw [Path.resolve_eq_along] at hspot
    exact hspot.symm
  rw [FileSystem.missing?_eq, components_pathOf root h, List.filterMap_append,
    Path.filterMap_segment?_names, hstart, FileSystem.firstMissing?_append _ hway, hplace]
  exact FileSystem.firstMissing?_names h hthere

end Catalogue
end DocViews
