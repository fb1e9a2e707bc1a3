import DocViews.Proofs.FileSystem.Walk

/-!
# What is missing on a way

Silent segments say nothing, so places (`Place.along_loud`) and what is missing
(`FileSystem.firstMissing?_loud`) can be seen at the other segments, which are those of the steps of
a path (`Path.resolve_eq_along`, `FileSystem.missing?_eq`).  Behind a beginning that misses nothing,
what is missing is what is missing from there on (`firstMissing?_append`).
-/

set_option autoImplicit false

namespace DocViews

open Node

/-! ## Segments that say something -/

namespace Path

/-- The segments of the steps of a path are those of its own that say something. -/
theorem filterMap_segment?_components (path : Path) :
    path.components.filterMap Component.segment?
      = path.segments.filter fun segment => !isSilent segment := by
  rw [components_eq_lead, List.filterMap_append, filterMap_segment?_lead, List.nil_append,
    filterMap_segment?_component?]

end Path

theorem Place.along_loud (place : Place) (segments : List Text) :
    place.along (segments.filter fun segment => !Path.isSilent segment) = place.along segments := by
  induction segments generalizing place with
  | nil => rfl
  | cons segment rest ih =>
    cases hc : Path.component? segment with
    | none =>
      have hsilent := Path.isSilent_of_component?_eq_none hc
      rw [List.filter_cons_of_neg (by simp [hsilent]), ih, along_cons_of_none hc]
    | some step =>
      have hloud := Path.isSilent_eq_false_of_component? hc
      rw [List.filter_cons_of_pos (by simp [hloud]), along_cons_of_some hc, ih,
        along_cons_of_some hc]

theorem Place.along_append (place : Place) (segments more : List Text) :
    place.along (segments ++ more) = (place.along segments).along more := by
  rw [along, List.filterMap_append, List.foldl_append, along, along]

theorem Place.along_names {names : List Text} (h : ∀ name ∈ names, Path.IsName name)
    (place : Place) : place.along names = place ++ names := by
  have hsteps := Path.filterMap_component?_texts (Path.isInner_of_mem_names h)
  rw [Path.map_text_names] at hsteps
  rw [along, hsteps, foldl_onward_names]

/-- The place that a path leads to depends on its start and on the segments of its steps. -/
theorem Path.resolve_eq_along (base : Place) (path : Path) :
    path.resolve base
      = Place.along (if path.isAbsolute then [] else base)
          (path.components.filterMap Component.segment?) := by
  rw [resolve_eq, filterMap_segment?_components, Place.along_loud]

namespace FileSystem

section

variable {tree : Node}

theorem firstMissing?_loud (segments : List Text) (place : Place) :
    firstMissing? tree (segments.filter fun segment => !Path.isSilent segment) place
      = firstMissing? tree segments place := by
  induction segments generalizing place with
  | nil => rfl
  | cons segment rest ih =>
    rcases Path.segment_cases segment with hsilent | rfl | hname
    · rw [List.filter_cons_of_neg (by simp [hsilent]), ih, firstMissing?_silent hsilent]
    · rw [List.filter_cons_of_pos (by decide), firstMissing?_parent, firstMissing?_parent, ih]
    · rw [List.filter_cons_of_pos (by simp [(Path.loud_of_name hname).1]),
        firstMissing?_name hname, firstMissing?_name hname]
      cases faceAt (place ++ [segment]) tree with
      | none => rfl
      | some node => exact ih _

/-- Behind a beginning that misses nothing, it is what is missing from there on. -/
theorem firstMissing?_append {segments : List Text} (more : List Text) {place : Place}
    (h : firstMissing? tree segments place = none) :
    firstMissing? tree (segments ++ more) place
      = firstMissing? tree more (place.along segments) := by
  induction segments generalizing place with
  | nil => rfl
  | cons segment rest ih =>
    rw [List.cons_append]
    rcases Path.segment_cases segment with hsilent | rfl | hname
    · rw [firstMissing?_silent hsilent] at h ⊢
      rw [ih h, Place.along_cons_of_none (by rw [Path.component?, if_pos hsilent])]
    · rw [firstMissing?_parent] at h ⊢
      rw [ih h, Place.along_cons_of_some (show Path.component? ['.', '.'] = some .parent from rfl)]
      rfl
    · rw [firstMissing?_name hname] at h ⊢
      rw [Place.along_cons_of_some hname]
      cases hface : faceAt (place ++ [segment]) tree with
      | none =>
        rw [hface] at h
        cases h
      | some node =>
        rw [hface] at h
        exact ih h

/-- By the names on its way, nothing is missing of what is there. -/
theorem firstMissing?_names {names : List Text} (h : ∀ name ∈ names, Path.IsName name)
    {place : Place} (hthere : faceAt (place ++ names) tree ≠ none) :
    firstMissing? tree names place = none := by
  induction names generalizing place with
  | nil => rfl
  | cons name rest ih =>
    rw [show place ++ name :: rest = place ++ [name] ++ rest by simp] at hthere
    obtain ⟨node, hnode⟩ := Option.ne_none_iff_exists'.1 (faceAt_ne_none_of_append hthere)
    have hname : Path.component? name = some (.name name) :=
      (h name List.mem_cons_self).isInner.1
    rw [firstMissing?_name hname, hnode]
    exact ih (fun n hn => h n (List.mem_cons_of_mem _ hn)) hthere

end

/-- What is missing on the way of a path depends on its start and on the segments of its steps. -/
theorem missing?_eq (fs : FileSystem) (path : Path) :
    fs.missing? path
      = firstMissing? fs.tree (path.components.filterMap Component.segment?) (fs.startOf path) := by
  rw [missing?, Path.filterMap_segment?_components, firstMissing?_loud]

end FileSystem

end DocViews
