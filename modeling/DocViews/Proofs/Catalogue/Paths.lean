import DocViews.Catalogue
import DocViews.Proofs.Path.Steps
import Mathlib.Data.List.Induction

/-!
# Paths of files below a root

A file is found by the names that lead to it from a root.  Its path is the path of the root with
these names behind it, so it says what the root says and then the names (`components_pathOf`).  What
it says below the root are the names alone (`below?_pathOf`), however the root is written: with
slashes at its end, with points inside, or as the empty path.
-/

set_option autoImplicit false

namespace DocViews

namespace Path

/-! ## Dropping steps -/

theorem dropSteps_cons_of_silent {segment : Text} (h : isSilent segment = true) (n : Nat)
    (rest : List Text) : dropSteps n (segment :: rest) = dropSteps n rest := by
  cases n <;> rw [dropSteps, dropSteps, List.dropWhile_cons_of_pos h]

theorem dropSteps_cons_of_loud {segment : Text} (h : isSilent segment = false) (n : Nat)
    (rest : List Text) : dropSteps (n + 1) (segment :: rest) = dropSteps n rest := by
  rw [dropSteps, List.dropWhile_cons_of_neg (by simp [h]), List.tail_cons]

/-- What is behind the segments of so many steps, if it begins with a segment that says
something. -/
theorem dropSteps_append (segments : List Text) {rest : List Text}
    (hrest : ∀ segment ∈ rest, isSilent segment = false) :
    dropSteps (segments.filterMap component?).length (segments ++ rest) = rest := by
  induction segments with
  | nil =>
    cases rest with
    | nil => rfl
    | cons first more =>
      exact List.dropWhile_cons_of_neg (by simp [hrest first List.mem_cons_self])
  | cons segment more ih =>
    rw [List.cons_append]
    cases hc : component? segment with
    | none =>
      rw [List.filterMap_cons_none hc,
        dropSteps_cons_of_silent (isSilent_of_component?_eq_none hc), ih]
    | some step =>
      rw [List.filterMap_cons_some hc, List.length_cons,
        dropSteps_cons_of_loud (isSilent_eq_false_of_component? hc), ih]

theorem trimSilent_eq_self {segments : List Text}
    (h : ∀ segment ∈ segments, isSilent segment = false) : trimSilent segments = segments := by
  rw [trimSilent]
  cases hreverse : segments.reverse with
  | nil => rw [List.reverse_eq_nil_iff.1 hreverse]; rfl
  | cons last before =>
    have hlast : last ∈ segments := by
      rw [← List.mem_reverse, hreverse]
      exact List.mem_cons_self
    rw [List.dropWhile_cons_of_neg (by simp [h last hlast]), ← hreverse, List.reverse_reverse]

theorem withoutTail_intercalate {names : List Text} (h : ∀ name ∈ names, IsName name) :
    withoutTail ⟨List.intercalate ['/'] names⟩ = ⟨List.intercalate ['/'] names⟩ := by
  cases names with
  | nil => rfl
  | cons first rest =>
    have hfirst := (h first List.mem_cons_self).isInner
    have hsegments : (Path.mk (List.intercalate ['/'] (first :: rest))).segments = first :: rest :=
      List.splitOn_intercalate '/' (fun name hname => (h name hname).isInner.2) (by simp)
    have habs := isAbsolute_eq_false hsegments hfirst.text_ne_nil
    have hhere : first ≠ ['.'] := hfirst.text_ne_here
    have hloud : trimSilent (first :: rest) = first :: rest :=
      trimSilent_eq_self fun name hname => isSilent_eq_false_of_component? (h name hname).isInner.1
    rw [withoutTail, hsegments]
    simp only [habs, Bool.false_eq_true, if_false, if_neg hhere, hloud]

/-! ## The first step -/

/-- The first segment of a path that is not empty is its first step. -/
theorem exists_components_eq_cons {path : Path} (h : path.text ≠ []) :
    ∃ first rest step, path.segments = first :: rest ∧
      path.components = step :: rest.filterMap component? := by
  obtain ⟨first, rest, hs⟩ := exists_segments path
  cases habs : path.isAbsolute with
  | true =>
    obtain ⟨more, hmore⟩ := segments_of_absolute habs
    refine ⟨first, rest, .root, hs, ?_⟩
    rw [components_of_absolute habs, hmore, List.filterMap_cons_none rfl]
    rw [hs] at hmore
    rw [(List.cons.inj hmore).2]
  | false =>
    refine ⟨first, rest, ?_⟩
    have hfirst : first ≠ [] := by
      rintro rfl
      have htext : path.text = List.intercalate ['/'] ([] :: rest) := by
        rw [← hs, segments, List.intercalate_splitOn]
      cases rest with
      | nil => exact h htext
      | cons next more =>
        rw [isAbsolute, htext] at habs
        exact absurd habs (by simp [List.intercalate])
    rw [components_of_relative habs, hs, List.head?_cons]
    by_cases hhere : first = ['.']
    · subst hhere
      exact ⟨.here, rfl, rfl⟩
    · rw [if_neg (by simpa using hhere), List.nil_append]
      cases hc : component? first with
      | none =>
        have hsilent := isSilent_of_component?_eq_none hc
        exact absurd hsilent (by simp [isSilent, hfirst, hhere])
      | some step => exact ⟨step, rfl, List.filterMap_cons_some hc⟩

theorem components_ne_nil {path : Path} (h : path.text ≠ []) : path.components ≠ [] := by
  obtain ⟨first, rest, step, -, hcomponents⟩ := exists_components_eq_cons h
  rw [hcomponents]
  exact List.cons_ne_nil step _

/-! ## Paths of names -/

/-- A path that is written from names is the names with slashes between them. -/
theorem ofComponents_names {names : List Text} (h : ∀ name ∈ names, IsName name) :
    ofComponents (names.map .name) = ⟨List.intercalate ['/'] names⟩ := by
  rw [ofComponents_relative (isInner_of_mem_names h), map_text_names]

theorem components_ofComponents_names {names : List Text} (h : ∀ name ∈ names, IsName name) :
    (ofComponents (names.map .name)).components = names.map .name :=
  components_ofComponents (.relative (isInner_of_mem_names h))

theorem filterMap_name?_names (names : List Text) :
    (names.map Component.name).filterMap Component.name? = names := by
  rw [List.filterMap_map]
  exact List.filterMap_some

/-- The folders of a path that is written from names are all names but the last. -/
theorem folderNames_ofComponents {names : List Text} (h : ∀ name ∈ names, IsName name) :
    (ofComponents (names.map .name)).folderNames = names.dropLast := by
  rw [folderNames, folderComponents, components_ofComponents_names h, ← List.map_dropLast,
    filterMap_name?_names]

/-- A name below a path is one more step. -/
theorem components_join_name (path : Path) {name : Text} (hname : IsName name) :
    (path.join ⟨name⟩).components = path.components ++ [.name name] := by
  have h := hname.isInner
  have habs : (Path.mk name).isAbsolute = false := h.isAbsolute_eq_false
  have hstep : component? name = some (.name name) := h.1
  have hsegments : (Path.mk name).segments = [name] := List.splitOn_eq_singleton h.2
  have hsteps : (Path.mk name).segments.filterMap component? = [.name name] := by
    rw [hsegments, List.filterMap_cons_some hstep, List.filterMap_nil]
  by_cases hpath : path.text = []
  · have hjoin := join_of_empty hpath habs
    obtain ⟨text⟩ := path
    obtain rfl : text = [] := hpath
    have hhere : ¬ [name].head? = some ['.'] := fun hhead => h.text_ne_here (Option.some.inj hhead)
    rw [hjoin, components_of_relative habs, hsteps, hsegments, if_neg hhere]
    rfl
  · rw [components_join hpath habs, hsteps]

end Path

namespace Catalogue

open DocViews.Path

/-! ## Paths of files -/

theorem pathOf_concat (root : Path) (names : List Text) (last : Text) :
    pathOf root (names ++ [last]) = (pathOf root names).join ⟨last⟩ :=
  List.foldl_concat ..

/-- **The path of a file says what the root says, and then the names.** -/
theorem components_pathOf (root : Path) {names : List Text}
    (h : ∀ name ∈ names, IsName name) :
    (pathOf root names).components = root.components ++ names.map .name := by
  induction names using List.reverseRecOn with
  | nil => exact (List.append_nil _).symm
  | append_singleton names last ih =>
    rw [pathOf_concat, components_join_name _ (h last (by simp)),
      ih fun name hname => h name (List.mem_append_left _ hname), List.map_append,
      List.map_singleton, List.append_assoc]

theorem text_pathOf_ne_nil {root : Path} (hroot : root.text ≠ []) {names : List Text}
    (h : ∀ name ∈ names, IsName name) : (pathOf root names).text ≠ [] := by
  intro htext
  have hcomponents := components_pathOf root h
  have hempty : pathOf root names = ⟨[]⟩ := by rw [← htext]
  rw [hempty] at hcomponents
  exact components_ne_nil hroot (List.append_eq_nil_iff.1 hcomponents.symm).1

/-- The segments of the path of a file are the names behind those of the root, which may end in a
slash. -/
theorem exists_segments_pathOf {root : Path} (hroot : root.text ≠ []) {names : List Text}
    (h : ∀ name ∈ names, IsName name) :
    ∃ up, (pathOf root names).segments = up ++ names ∧
      (root.segments = up ∨ root.segments = up ++ [[]]) := by
  induction names using List.reverseRecOn with
  | nil => exact ⟨root.segments, (List.append_nil _).symm, Or.inl rfl⟩
  | append_singleton names last ih =>
    have hnames : ∀ name ∈ names, IsName name :=
      fun name hname => h name (List.mem_append_left _ hname)
    have hlast := (h last (by simp)).isInner
    obtain ⟨up, hup, hrootup⟩ := ih hnames
    obtain ⟨above, habove, hcases, -⟩ :=
      exists_segments_join (text_pathOf_ne_nil hroot hnames) hlast.isAbsolute_eq_false
    have hsegments : (pathOf root (names ++ [last])).segments = above ++ [last] := by
      rw [pathOf_concat]
      exact habove.trans (congrArg (above ++ ·) (List.splitOn_eq_singleton hlast.2))
    rw [hup] at hcases
    rcases hcases with heq | hslash
    · exact ⟨up, by rw [hsegments, ← heq, List.append_assoc], hrootup⟩
    · -- only the root may end in a slash
      cases names using List.reverseRecOn with
      | nil =>
        rw [List.append_nil] at hslash
        refine ⟨above, hsegments, Or.inr ?_⟩
        have hsame : (pathOf root []).segments = root.segments := rfl
        rw [← hsame, hup, List.append_nil, hslash]
      | append_singleton names before =>
        rw [← List.append_assoc, List.append_singleton_inj] at hslash
        exact absurd hslash.2 (hnames before (by simp)).1

/-- **What the path of a file says below the root are the names.** -/
theorem below?_pathOf (root : Path) {names : List Text}
    (h : ∀ name ∈ names, IsName name) :
    below? root (pathOf root names) = some (ofComponents (names.map .name)) := by
  have hloud : ∀ name ∈ names, isSilent name = false :=
    fun name hname => isSilent_eq_false_of_component? (h name hname).isInner.1
  have hbegins : root.components.isPrefixOf (pathOf root names).components = true := by
    rw [List.isPrefixOf_iff_prefix, components_pathOf root h]
    exact List.prefix_append _ _
  have hwritten := ofComponents_names h
  rw [below?, hwritten]
  simp only [hbegins, if_true]
  by_cases hroot : root.text = []
  · -- below the empty path everything is as it is
    obtain ⟨text⟩ := root
    obtain rfl : text = [] := hroot
    have hpath : pathOf ⟨[]⟩ names = ⟨List.intercalate ['/'] names⟩ := by
      rw [← hwritten, ofComponents, List.foldl_map]
      rfl
    have hnone : (Path.mk []).components = [] := rfl
    simp only [hnone, List.length_nil, hpath, withoutTail_intercalate h]
  · -- the first segment is the first step, and the others are dropped by the steps that they say
    obtain ⟨first, rest, step, hsegments, hcomponents⟩ := exists_components_eq_cons hroot
    obtain ⟨up, hpath, hup⟩ := exists_segments_pathOf hroot h
    obtain ⟨more, rfl, hmore⟩ : ∃ more, up = first :: more ∧
        rest.filterMap component? = more.filterMap component? := by
      rw [hsegments] at hup
      rcases hup with rfl | hslash
      · exact ⟨rest, rfl, rfl⟩
      · cases up with
        | nil =>
          -- then the root would be empty
          refine absurd ?_ hroot
          exact (List.intercalate_splitOn '/').symm.trans
            (congrArg (List.intercalate ['/']) (hsegments.trans hslash))
        | cons top more =>
          obtain ⟨rfl, rfl⟩ := List.cons.inj hslash
          exact ⟨more, rfl, (List.filterMap_append ..).trans (List.append_nil _)⟩
    rw [hcomponents, List.length_cons, hmore, hpath, List.cons_append, List.tail_cons]
    simp only [dropSteps_append more hloud, trimSilent_eq_self hloud]

end Catalogue
end DocViews
