import DocViews.FileSystem.Basic
import DocViews.Proofs.Path.Components

/-!
# Paths written from their steps

`Path.ofComponents` writes steps one below the other.  If they are steps as a path says them, with
the root and a point at the start only (`Path.Sound`), then the path says these steps again
(`components_ofComponents`), and its segments are those of the steps, behind silent ones that stand
for the start (`segments_ofComponents`).
-/

set_option autoImplicit false

namespace DocViews

/-- The segment that a step is inside a path; the root and a point are none. -/
def Component.segment? : Component → Option Text
  | root => none
  | here => none
  | parent => some ['.', '.']
  | name text => some text

namespace Path

/-! ## Steps that a path may say -/

/-- A step that a segment inside a path says. -/
def IsInner (step : Component) : Prop :=
  component? step.text = some step ∧ '/' ∉ step.text

/-- Steps as a path says them. -/
inductive Sound : List Component → Prop
  | relative {steps : List Component} (h : ∀ step ∈ steps, IsInner step) : Sound steps
  | here {steps : List Component} (h : ∀ step ∈ steps, IsInner step) : Sound (.here :: steps)
  | absolute {steps : List Component} (h : ∀ step ∈ steps, IsInner step) : Sound (.root :: steps)

/-- A text that can be the name of a file or a folder. -/
def IsName (name : Text) : Prop :=
  name ≠ [] ∧ name ≠ ['.'] ∧ name ≠ ['.', '.'] ∧ '/' ∉ name

instance (name : Text) : Decidable (IsName name) :=
  inferInstanceAs (Decidable (name ≠ [] ∧ name ≠ ['.'] ∧ name ≠ ['.', '.'] ∧ '/' ∉ name))

theorem IsName.isInner {name : Text} (h : IsName name) : IsInner (.name name) :=
  ⟨component?_name h.1 h.2.1 h.2.2.1, h.2.2.2⟩

theorem isInner_of_mem_names {names : List Text} (h : ∀ name ∈ names, IsName name) :
    ∀ step ∈ names.map Component.name, IsInner step := by
  intro step hstep
  obtain ⟨name, hname, rfl⟩ := List.mem_map.1 hstep
  exact (h name hname).isInner

theorem map_text_names (names : List Text) :
    (names.map Component.name).map Component.text = names := by
  rw [List.map_map]
  exact List.map_id names

/-- A segment that says a name is one. -/
theorem isName_of_component? {segment name : Text} (h : component? segment = some (.name name))
    (hslash : '/' ∉ segment) : IsName segment := by
  refine ⟨?_, ?_, ?_, hslash⟩ <;> rintro rfl <;> exact absurd h (by simp [component?, isSilent])

theorem isInner_of_component? {segment : Text} {step : Component} (hslash : '/' ∉ segment)
    (h : component? segment = some step) : IsInner step := by
  rcases component?_cases h with ⟨rfl, rfl⟩ | rfl
  · exact ⟨rfl, hslash⟩
  · exact ⟨h, hslash⟩

theorem sound_components (path : Path) : Sound path.components := by
  have hinner : ∀ step ∈ path.segments.filterMap component?, IsInner step := by
    intro step hstep
    obtain ⟨segment, hsegment, hc⟩ := List.mem_filterMap.1 hstep
    exact isInner_of_component? (notMem_of_mem_segments hsegment) hc
  cases habs : path.isAbsolute with
  | true => rw [components_of_absolute habs]; exact .absolute hinner
  | false =>
    rw [components_of_relative habs]
    split
    · exact .here hinner
    · exact .relative hinner

/-- The beginning of sound steps is sound. -/
theorem Sound.of_append {steps more : List Component} (h : Sound (steps ++ more)) : Sound steps := by
  cases steps with
  | nil => exact .relative (by simp)
  | cons first rest =>
    rw [List.cons_append] at h
    cases h with
    | relative h => exact .relative fun step hstep => h step (List.mem_append_left more hstep)
    | here h => exact .here fun step hstep => h step (List.mem_append_left more hstep)
    | absolute h => exact .absolute fun step hstep => h step (List.mem_append_left more hstep)

theorem Sound.isInner_name {steps : List Component} (h : Sound steps) {name : Text}
    (hname : .name name ∈ steps) : IsInner (.name name) := by
  cases h with
  | relative h => exact h _ hname
  | here h => exact h _ ((List.mem_cons.1 hname).resolve_left (by simp))
  | absolute h => exact h _ ((List.mem_cons.1 hname).resolve_left (by simp))

/-- Only the first step can be the root or a point. -/
theorem Sound.isInner_of_mem_tail {steps : List Component} (h : Sound steps) :
    ∀ step ∈ steps.tail, IsInner step := by
  cases h with
  | relative h => exact fun step hstep => h step (List.mem_of_mem_tail hstep)
  | here h => exact h
  | absolute h => exact h

theorem Sound.isInner_last {steps : List Component} {step : Component}
    (h : Sound (steps ++ [step])) (hne : steps ≠ []) : IsInner step := by
  refine h.isInner_of_mem_tail step ?_
  rw [List.tail_append_of_ne_nil hne]
  simp

theorem filterMap_segment?_names (names : List Text) :
    (names.map Component.name).filterMap Component.segment? = names := by
  induction names with
  | nil => rfl
  | cons name rest ih =>
    have hname : (Component.name name).segment? = some name := rfl
    rw [List.map_cons, List.filterMap_cons_some hname, ih]

namespace IsInner

variable {step : Component}

theorem text_ne_nil (h : IsInner step) : step.text ≠ [] := by
  intro htext
  have hstep : component? step.text = some step := h.1
  rw [htext] at hstep
  exact absurd hstep (by simp [component?, isSilent])

theorem text_ne_here (h : IsInner step) : step.text ≠ ['.'] := by
  intro htext
  have hstep : component? step.text = some step := h.1
  rw [htext] at hstep
  exact absurd hstep (by simp [component?, isSilent])

theorem isAbsolute_eq_false (h : IsInner step) : (Path.mk step.text).isAbsolute = false := by
  rw [isAbsolute, decide_eq_false_iff_not]
  exact fun hhead => h.2 (List.mem_of_head? hhead)

theorem segment?_eq (h : IsInner step) : step.segment? = some step.text := by
  cases step with
  | root => exact absurd List.mem_cons_self h.2
  | here => exact absurd rfl h.text_ne_here
  | parent => rfl
  | name text => rfl

end IsInner

section

variable {steps : List Component} (h : ∀ step ∈ steps, IsInner step)

include h

theorem filterMap_segment?_eq : steps.filterMap Component.segment? = steps.map Component.text := by
  induction steps with
  | nil => rfl
  | cons step rest ih =>
    rw [List.filterMap_cons_some (h step List.mem_cons_self).segment?_eq, List.map_cons,
      ih fun s hs => h s (List.mem_cons_of_mem _ hs)]

theorem filterMap_component?_texts : (steps.map Component.text).filterMap component? = steps := by
  induction steps with
  | nil => rfl
  | cons step rest ih =>
    rw [List.map_cons, List.filterMap_cons_some (h step List.mem_cons_self).1,
      ih fun s hs => h s (List.mem_cons_of_mem _ hs)]

theorem slash_notMem_texts : ∀ text ∈ steps.map Component.text, '/' ∉ text := by
  intro text htext
  obtain ⟨step, hstep, rfl⟩ := List.mem_map.1 htext
  exact (h step hstep).2

theorem nil_notMem_texts : [] ∉ steps.map Component.text := by
  intro hnil
  obtain ⟨step, hstep, htext⟩ := List.mem_map.1 hnil
  exact (h step hstep).text_ne_nil htext

end

/-- The segments that say something are those of the steps. -/
theorem filterMap_segment?_component? (segments : List Text) :
    (segments.filterMap component?).filterMap Component.segment?
      = segments.filter fun segment => !isSilent segment := by
  induction segments with
  | nil => rfl
  | cons segment rest ih =>
    cases hc : component? segment with
    | none =>
      have hsilent := isSilent_of_component?_eq_none hc
      rw [List.filterMap_cons_none hc, List.filter_cons_of_neg (by simp [hsilent]), ih]
    | some step =>
      have hsilent := isSilent_eq_false_of_component? hc
      have hsegment : step.segment? = some segment := by
        rcases component?_cases hc with ⟨rfl, rfl⟩ | rfl <;> rfl
      rw [List.filterMap_cons_some hc, List.filterMap_cons_some hsegment,
        List.filter_cons_of_pos (by simp [hsilent]), ih]

/-- The steps that stand for the start of a path. -/
def lead (path : Path) : List Component :=
  if path.isAbsolute then [.root] else if path.segments.head? = some ['.'] then [.here] else []

theorem components_eq_lead (path : Path) :
    path.components = path.lead ++ path.segments.filterMap component? := by
  rw [lead]
  cases habs : path.isAbsolute with
  | true =>
    rw [components_of_absolute habs]
    rfl
  | false =>
    rw [components_of_relative habs]
    rfl

theorem filterMap_segment?_lead (path : Path) :
    path.lead.filterMap Component.segment? = [] := by
  rw [lead]
  split
  · rfl
  · split <;> rfl

/-! ## Their text -/

theorem ofComponents_concat (steps : List Component) (step : Component) :
    ofComponents (steps ++ [step]) = (ofComponents steps).join ⟨step.text⟩ :=
  List.foldl_concat ..

/-- A longer path begins with the text of the shorter one. -/
theorem text_ofComponents_concat (steps : List Component) {step : Component}
    (h : IsInner step) :
    ∃ more, (ofComponents (steps ++ [step])).text = (ofComponents steps).text ++ more := by
  rw [ofComponents_concat, join, if_neg (by simp [h.isAbsolute_eq_false])]
  split
  · exact ⟨_, rfl⟩
  · exact ⟨_, rfl⟩

/-- The induction is on the steps that are still to be written; `front` is what stands before the
names that have been written. -/
theorem foldl_join_eq (front : Text) {steps : List Component} (h : ∀ step ∈ steps, IsInner step)
    {texts : List Text} (htexts : texts ≠ []) (hslash : ∀ text ∈ texts, '/' ∉ text)
    (hempty : [] ∉ texts) :
    steps.foldl (fun (path : Path) step => path.join ⟨step.text⟩)
        ⟨front ++ List.intercalate ['/'] texts⟩
      = ⟨front ++ List.intercalate ['/'] (texts ++ steps.map Component.text)⟩ := by
  induction steps generalizing texts with
  | nil => rw [List.map_nil, List.append_nil, List.foldl_nil]
  | cons step rest ih =>
    have hstep := h step List.mem_cons_self
    have hjoin : (Path.mk (front ++ List.intercalate ['/'] texts)).join ⟨step.text⟩
        = ⟨front ++ List.intercalate ['/'] (texts ++ [step.text])⟩ := by
      obtain ⟨hne, hlast⟩ := getLast?_intercalate htexts hslash hempty
      have hlast' : (front ++ List.intercalate ['/'] texts).getLast? ≠ some '/' := by
        rwa [List.getLast?_append_of_ne_nil _ hne]
      have hmid : ¬ (front ++ List.intercalate ['/'] texts = [] ||
          (front ++ List.intercalate ['/'] texts).getLast? = some '/') = true := by
        rw [Bool.or_eq_true, decide_eq_true_iff, decide_eq_true_iff, not_or]
        exact ⟨fun hnil => hne (List.append_eq_nil_iff.1 hnil).2, hlast'⟩
      rw [join, if_neg (by simp [hstep.isAbsolute_eq_false]), if_neg hmid,
        Text.intercalate_concat htexts]
      simp only [List.append_assoc, List.singleton_append]
    have hslash' : ∀ text ∈ texts ++ [step.text], '/' ∉ text := by
      intro text htext
      rcases List.mem_append.1 htext with htext | htext
      · exact hslash text htext
      · rw [List.mem_singleton.1 htext]
        exact hstep.2
    have hempty' : [] ∉ texts ++ [step.text] := by
      intro hnil
      rcases List.mem_append.1 hnil with hnil | hnil
      · exact hempty hnil
      · exact hstep.text_ne_nil (List.mem_singleton.1 hnil).symm
    rw [List.foldl_cons, hjoin,
      ih (fun s hs => h s (List.mem_cons_of_mem _ hs)) (by simp) hslash' hempty', List.map_cons,
      List.append_assoc, List.singleton_append]

theorem ofComponents_relative {steps : List Component} (h : ∀ step ∈ steps, IsInner step) :
    ofComponents steps = ⟨List.intercalate ['/'] (steps.map Component.text)⟩ := by
  cases steps with
  | nil => rfl
  | cons step rest =>
    have hstep := h step List.mem_cons_self
    have hfirst : (Path.mk []).join ⟨step.text⟩ = ⟨[] ++ List.intercalate ['/'] [step.text]⟩ := by
      rw [join, if_neg (by simp [hstep.isAbsolute_eq_false]), if_pos (by simp),
        List.intercalate_singleton]
    rw [ofComponents, List.foldl_cons, hfirst,
      foldl_join_eq [] (fun s hs => h s (List.mem_cons_of_mem _ hs)) (by simp)
        (by simpa using hstep.2) (by simpa using hstep.text_ne_nil)]
    rfl

theorem ofComponents_here {steps : List Component} (h : ∀ step ∈ steps, IsInner step) :
    ofComponents (.here :: steps)
      = ⟨List.intercalate ['/'] (['.'] :: steps.map Component.text)⟩ := by
  have hfirst : (Path.mk []).join ⟨Component.here.text⟩
      = ⟨[] ++ List.intercalate ['/'] [['.']]⟩ := rfl
  rw [ofComponents, List.foldl_cons, hfirst, foldl_join_eq [] h (by simp) (by simp) (by simp)]
  rfl

theorem ofComponents_absolute {steps : List Component} (h : ∀ step ∈ steps, IsInner step) :
    ofComponents (.root :: steps)
      = ⟨'/' :: List.intercalate ['/'] (steps.map Component.text)⟩ := by
  cases steps with
  | nil => rfl
  | cons step rest =>
    have hstep := h step List.mem_cons_self
    have hfirst : ((Path.mk []).join ⟨Component.root.text⟩).join ⟨step.text⟩
        = ⟨['/'] ++ List.intercalate ['/'] [step.text]⟩ := by
      have hroot : (Path.mk []).join ⟨Component.root.text⟩ = ⟨['/']⟩ := rfl
      rw [hroot, join, if_neg (by simp [hstep.isAbsolute_eq_false]), if_pos (by simp),
        List.intercalate_singleton]
    rw [ofComponents, List.foldl_cons, List.foldl_cons, hfirst,
      foldl_join_eq ['/'] (fun s hs => h s (List.mem_cons_of_mem _ hs)) (by simp)
        (by simpa using hstep.2) (by simpa using hstep.text_ne_nil)]
    rfl

/-! ## What the path says -/

/-- The steps of the path and its segments, by the start of the steps. -/
theorem Sound.written {steps : List Component} (h : Sound steps) :
    (ofComponents steps).components = steps ∧
      ∃ quiet, (∀ segment ∈ quiet, isSilent segment = true) ∧
        (ofComponents steps).segments = quiet ++ steps.filterMap Component.segment? := by
  cases h with
  | relative h =>
    rw [ofComponents_relative h, filterMap_segment?_eq h]
    by_cases hnil : steps = []
    · subst hnil
      exact ⟨rfl, [[]], by decide, rfl⟩
    · have hsegments : (Path.mk (List.intercalate ['/'] (steps.map Component.text))).segments
          = steps.map Component.text :=
        List.splitOn_intercalate '/' (slash_notMem_texts h) (by simpa using hnil)
      obtain ⟨first, rest, rfl⟩ := List.exists_cons_of_ne_nil hnil
      have hfirst := h first List.mem_cons_self
      rw [List.map_cons] at hsegments
      refine ⟨?_, [], by simp, hsegments⟩
      rw [List.map_cons, components_of_relative (isAbsolute_eq_false hsegments hfirst.text_ne_nil),
        hsegments, if_neg (by simpa using hfirst.text_ne_here), List.nil_append, ← List.map_cons,
        filterMap_component?_texts h]
  | here h =>
    rename_i steps
    have hsegments :
        (Path.mk (List.intercalate ['/'] (['.'] :: steps.map Component.text))).segments
          = ['.'] :: steps.map Component.text :=
      List.splitOn_intercalate '/' (List.forall_mem_cons.2 ⟨by decide, slash_notMem_texts h⟩)
        (by simp)
    rw [ofComponents_here h, List.filterMap_cons_none rfl, filterMap_segment?_eq h]
    refine ⟨?_, [['.']], by decide, hsegments⟩
    rw [components_of_relative (isAbsolute_eq_false hsegments (by simp)), hsegments,
      List.head?_cons, if_pos rfl, List.filterMap_cons_none rfl, filterMap_component?_texts h]
    rfl
  | absolute h =>
    rename_i steps
    have hsegments : (Path.mk ('/' :: List.intercalate ['/'] (steps.map Component.text))).segments
        = [] :: List.splitOn '/' (List.intercalate ['/'] (steps.map Component.text)) := by
      rw [segments, Text.splitOn_cons_self]
    rw [ofComponents_absolute h, List.filterMap_cons_none rfl, filterMap_segment?_eq h,
      components_of_absolute (by rfl), hsegments, List.filterMap_cons_none rfl]
    by_cases hnil : steps = []
    · subst hnil
      exact ⟨rfl, [[], []], by decide, rfl⟩
    · rw [List.splitOn_intercalate '/' (slash_notMem_texts h) (by simpa using hnil),
        filterMap_component?_texts h]
      exact ⟨rfl, [[]], by decide, rfl⟩

/-- **A path written from steps says these steps.** -/
theorem components_ofComponents {steps : List Component} (h : Sound steps) :
    (ofComponents steps).components = steps :=
  h.written.1

theorem segments_ofComponents {steps : List Component} (h : Sound steps) :
    ∃ quiet, (∀ segment ∈ quiet, isSilent segment = true) ∧
      (ofComponents steps).segments = quiet ++ steps.filterMap Component.segment? :=
  h.written.2

theorem text_ofComponents_eq_nil_iff {steps : List Component} (h : Sound steps) :
    (ofComponents steps).text = [] ↔ steps = [] := by
  constructor
  · intro htext
    have hempty : ofComponents steps = ⟨[]⟩ := by rw [← htext]
    have hcomponents := components_ofComponents h
    rw [hempty] at hcomponents
    exact hcomponents.symm
  · rintro rfl
    rfl

theorem isAbsolute_iff (path : Path) :
    path.isAbsolute = true ↔ path.components.head? = some .root := by
  cases habs : path.isAbsolute with
  | true => rw [components_of_absolute habs]; simp
  | false =>
    rw [components_of_relative habs]
    refine iff_of_false (by simp) fun hhead => ?_
    have hroot : Component.root ∈ path.segments.filterMap component? := by
      split at hhead
      · exact absurd hhead (by simp)
      · exact List.mem_of_head? hhead
    obtain ⟨segment, -, hc⟩ := List.mem_filterMap.1 hroot
    rcases component?_cases hc with ⟨-, hstep⟩ | hstep <;> exact Component.noConfusion hstep

end Path
end DocViews
