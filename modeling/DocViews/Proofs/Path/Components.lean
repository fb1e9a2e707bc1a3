import DocViews.Path
import DocViews.Proofs.Text.Split

/-!
# The steps that a path says

`Path.components` reads a path segment by segment, with two exceptions at its start: the root, and a
point.  So the steps of a relative path are those of its segments behind a point that it may begin
with (`components_of_relative`), and a path below another says the steps of both
(`components_join`).

A path is *plain* if it says names only.  Whether it is can be seen at its segments
(`isPlain_iff`).
-/

set_option autoImplicit false

namespace DocViews

theorem Component.eq_of_name?_eq_some {step : Component} {text : Text}
    (h : step.name? = some text) : step = .name text := by
  cases step with
  | name name => rw [Option.some.inj h]
  | root => exact absurd h (by simp [name?])
  | here => exact absurd h (by simp [name?])
  | parent => exact absurd h (by simp [name?])

namespace Path

/-! ## Segments -/

theorem component?_name {segment : Text} (hempty : segment ≠ []) (hhere : segment ≠ ['.'])
    (hparent : segment ≠ ['.', '.']) : component? segment = some (.name segment) := by
  rw [component?, if_neg (by simp [isSilent, hempty, hhere]), if_neg hparent]

theorem component?_of_three_le_length {segment : Text} (h : 3 ≤ segment.length) :
    component? segment = some (.name segment) := by
  refine component?_name ?_ ?_ ?_ <;> rintro rfl <;> exact absurd h (by decide)

/-- A segment inside a path says a name, or that it goes up, or nothing. -/
theorem component?_cases {segment : Text} {step : Component} (h : component? segment = some step) :
    (segment = ['.', '.'] ∧ step = .parent) ∨ step = .name segment := by
  rw [component?] at h
  split at h
  · exact absurd h (by simp)
  · split at h
    · next hparent => exact Or.inl ⟨hparent, (Option.some.inj h).symm⟩
    · exact Or.inr (Option.some.inj h).symm

/-- A segment without a step is silent. -/
theorem isSilent_of_component?_eq_none {segment : Text} (h : component? segment = none) :
    isSilent segment = true := by
  by_contra hsilent
  rw [component?, if_neg hsilent] at h
  split at h <;> exact absurd h (by simp)

theorem isSilent_eq_false_of_component? {segment : Text} {step : Component}
    (h : component? segment = some step) : isSilent segment = false := by
  by_contra hsilent
  rw [component?, if_pos (by simpa using hsilent)] at h
  exact absurd h (by simp)

theorem exists_segments (path : Path) : ∃ first rest, path.segments = first :: rest :=
  List.exists_cons_of_ne_nil (List.splitOn_ne_nil '/' path.text)

theorem notMem_of_mem_segments {path : Path} {segment : Text} (h : segment ∈ path.segments) :
    '/' ∉ segment :=
  Text.notMem_of_mem_splitOn h

theorem segments_of_absolute {path : Path} (h : path.isAbsolute = true) :
    ∃ rest, path.segments = [] :: rest := by
  rw [isAbsolute, decide_eq_true_iff] at h
  obtain ⟨more, hmore⟩ := List.head?_eq_some_iff.1 h
  exact ⟨List.splitOn '/' more, by rw [segments, hmore, Text.splitOn_cons_self]⟩

/-- A path whose first segment says something is relative. -/
theorem isAbsolute_eq_false {path : Path} {first : Text} {rest : List Text}
    (h : path.segments = first :: rest) (hne : first ≠ []) : path.isAbsolute = false := by
  cases habs : path.isAbsolute with
  | false => rfl
  | true =>
    obtain ⟨more, hmore⟩ := segments_of_absolute habs
    rw [h] at hmore
    exact absurd (List.cons.inj hmore).1 hne

/-! ## Steps -/

theorem components_of_absolute {path : Path} (h : path.isAbsolute = true) :
    path.components = .root :: path.segments.filterMap component? := by
  obtain ⟨rest, hs⟩ := segments_of_absolute h
  have hnil : component? [] = none := rfl
  rw [components, hs, List.filterMap_cons_none hnil]
  simp only [h, if_true, List.singleton_append]

/-- The steps of a relative path are those of its segments, behind a point at its start. -/
theorem components_of_relative {path : Path} (h : path.isAbsolute = false) :
    path.components
      = (if path.segments.head? = some ['.'] then [.here] else [])
        ++ path.segments.filterMap component? := by
  obtain ⟨first, rest, hs⟩ := exists_segments path
  rw [components, hs, List.head?_cons]
  simp only [h, Bool.false_eq_true, if_false, Option.some.injEq]
  by_cases hfirst : first = ['.']
  · subst hfirst
    rfl
  · rw [if_neg hfirst, if_neg hfirst, List.nil_append]
    cases hc : component? first with
    | none => rw [List.filterMap_cons_none hc]; rfl
    | some step => rw [List.filterMap_cons_some hc]; rfl

/-- A path with a slash inside says what is in front of the slash, then what is behind it. -/
theorem components_append_slash (before after : Text) :
    (Path.mk (before ++ '/' :: after)).components
      = (Path.mk (before ++ ['/'])).components
        ++ (Path.mk after).segments.filterMap component? := by
  obtain ⟨first, rest, hs⟩ :=
    List.exists_cons_of_ne_nil (List.splitOn_ne_nil '/' before)
  have habs : ∀ more, (Path.mk (before ++ '/' :: more)).isAbsolute
      = (Path.mk (before ++ ['/'])).isAbsolute := by
    intro more
    cases before <;> rfl
  have hsegments : ∀ more, (Path.mk (before ++ '/' :: more)).segments
      = first :: (rest ++ (Path.mk more).segments) := by
    intro more
    rw [segments, List.splitOn_append_cons_self, hs, List.cons_append]
    rfl
  have hnil : (Path.mk []).segments.filterMap component? = [] := rfl
  rw [components, components, hsegments after, hsegments [], habs after]
  simp only [List.filterMap_append, hnil, List.append_nil, List.append_assoc]

/-- A slash at the end of a path says nothing. -/
theorem components_append_singleton {text : Text} (h : text ≠ []) :
    (Path.mk (text ++ ['/'])).components = (Path.mk text).components := by
  obtain ⟨first, rest, hs⟩ := List.exists_cons_of_ne_nil (List.splitOn_ne_nil '/' text)
  have habs : (Path.mk (text ++ ['/'])).isAbsolute = (Path.mk text).isAbsolute := by
    cases text with
    | nil => exact absurd rfl h
    | cons c more => rfl
  have hsegments : (Path.mk (text ++ ['/'])).segments = first :: (rest ++ [[]]) := by
    rw [segments, List.splitOn_append_cons_self, hs, List.cons_append]
    rfl
  have hnil : component? [] = none := rfl
  rw [components, components, hsegments, habs, segments, hs]
  simp only [List.filterMap_append, List.filterMap_cons, hnil, List.filterMap_nil, List.append_nil]

/-- **A path below another says the steps of both**, but for a point at its start. -/
theorem components_join {folder path : Path} (hfolder : folder.text ≠ [])
    (h : path.isAbsolute = false) :
    (folder.join path).components
      = folder.components ++ path.segments.filterMap component? := by
  rw [join, if_neg (by simp [h])]
  by_cases hlast : folder.text.getLast? = some '/'
  · obtain ⟨before, hbefore⟩ := List.getLast?_eq_some_iff.1 hlast
    have hjoin : folder.text ++ path.text = before ++ '/' :: path.text := by
      rw [hbefore, List.append_assoc, List.singleton_append]
    have hsame : Path.mk (before ++ ['/']) = folder := by rw [← hbefore]
    rw [if_pos (by simp [hlast]), hjoin, components_append_slash, hsame]
  · rw [if_neg (by simp [hfolder, hlast]), components_append_slash,
      components_append_singleton hfolder]

/-- A chain of segments of which none is empty does not end in a slash. -/
theorem getLast?_intercalate {folders : List Text} (hfolders : folders ≠ [])
    (hslash : ∀ name ∈ folders, '/' ∉ name) (hempty : [] ∉ folders) :
    List.intercalate ['/'] folders ≠ [] ∧ (List.intercalate ['/'] folders).getLast? ≠ some '/' := by
  have hsplit : List.splitOn '/' (List.intercalate ['/'] folders) = folders :=
    List.splitOn_intercalate '/' hslash hfolders
  -- were the text empty, or were there a slash at its end, one of the segments would be empty
  constructor
  · intro hnil
    rw [hnil] at hsplit
    exact hempty (hsplit ▸ List.mem_singleton_self [])
  · intro hlast
    obtain ⟨before, hbefore⟩ := List.getLast?_eq_some_iff.1 hlast
    rw [hbefore, List.splitOn_append_cons_self] at hsplit
    exact hempty (hsplit ▸ List.mem_append_right _ (List.mem_singleton_self []))

theorem exists_text_join (folder path : Path) :
    ∃ front, (folder.join path).text = front ++ path.text := by
  rw [join]
  split
  · exact ⟨[], rfl⟩
  · split
    · exact ⟨folder.text, rfl⟩
    · exact ⟨folder.text ++ ['/'], by simp⟩

/-- Below a folder that is written as a chain of names, a path has its segments behind theirs. -/
theorem segments_join {folders : List Text} {path : Path} (hfolders : folders ≠ [])
    (hslash : ∀ name ∈ folders, '/' ∉ name) (hempty : [] ∉ folders)
    (h : path.isAbsolute = false) :
    ((Path.mk (List.intercalate ['/'] folders)).join path).segments = folders ++ path.segments := by
  have hsplit : List.splitOn '/' (List.intercalate ['/'] folders) = folders :=
    List.splitOn_intercalate '/' hslash hfolders
  obtain ⟨hne, hlast⟩ := getLast?_intercalate hfolders hslash hempty
  rw [join, if_neg (by simp [h]), if_neg (by simp [hne, hlast]), segments,
    List.splitOn_append_cons_self, hsplit]
  rfl

/-- A relative path below another one has the segments of both.  A slash between them is no
segment. -/
theorem exists_segments_join {folder path : Path} (hfolder : folder.text ≠ [])
    (h : path.isAbsolute = false) :
    ∃ up, (folder.join path).segments = up ++ path.segments ∧
      (folder.segments = up ∨ folder.segments = up ++ [[]]) ∧
      (folder.join path).isAbsolute = folder.isAbsolute := by
  rw [join, if_neg (by simp [h])]
  by_cases hlast : folder.text.getLast? = some '/'
  · obtain ⟨before, hbefore⟩ := List.getLast?_eq_some_iff.1 hlast
    rw [if_pos (by simp [hlast]), isAbsolute, isAbsolute, hbefore, List.append_assoc]
    refine ⟨List.splitOn '/' before, List.splitOn_append_cons_self before path.text, Or.inr ?_, ?_⟩
    · rw [segments, hbefore, List.splitOn_append_cons_self]
      rfl
    · cases before <;> rfl
  · rw [if_neg (by simp [hfolder, hlast]), isAbsolute, isAbsolute]
    refine ⟨folder.segments, List.splitOn_append_cons_self folder.text path.text, Or.inl rfl, ?_⟩
    obtain ⟨c, rest, htext⟩ := List.exists_cons_of_ne_nil hfolder
    rw [htext]
    rfl

/-- Below the empty path a path is as it is. -/
theorem join_of_empty {folder path : Path} (h : folder.text = [])
    (hrelative : path.isAbsolute = false) : folder.join path = path := by
  rw [join, if_neg (by simp [hrelative]), if_pos (by simp [h]), h]
  rfl

/-- What a path says below another one: the segments of both, or its own if it starts at the
root. -/
theorem join_cases (folder path : Path) :
    folder.join path = path ∨
      ∃ up, (folder.join path).segments = up ++ path.segments ∧
        (folder.segments = up ∨ folder.segments = up ++ [[]]) ∧
        (folder.join path).isAbsolute = folder.isAbsolute := by
  by_cases habs : path.isAbsolute = true
  · rw [join, if_pos habs]
    exact Or.inl rfl
  · by_cases hempty : folder.text = []
    · exact Or.inl (join_of_empty hempty (by simpa using habs))
    · exact Or.inr (exists_segments_join hempty (by simpa using habs))

/-! ## Plain paths -/

/-- A path that says names only. -/
def IsPlain (path : Path) : Prop :=
  ∀ step ∈ path.components, ∃ name, step = .name name

theorem isPlain_filterMap_iff {segments : List Text} :
    (∀ step ∈ segments.filterMap component?, ∃ name, step = .name name)
      ↔ ['.', '.'] ∉ segments := by
  constructor
  · intro h hparent
    obtain ⟨name, hname⟩ := h .parent (List.mem_filterMap.2 ⟨['.', '.'], hparent, rfl⟩)
    exact Component.noConfusion hname
  · intro h step hstep
    obtain ⟨segment, hsegment, hc⟩ := List.mem_filterMap.1 hstep
    rcases component?_cases hc with ⟨rfl, -⟩ | rfl
    · exact absurd hsegment h
    · exact ⟨segment, rfl⟩

/-- **Whether a path is plain** can be seen at its segments. -/
theorem isPlain_iff {path : Path} :
    path.IsPlain ↔ path.isAbsolute = false ∧ path.segments.head? ≠ some ['.']
      ∧ ['.', '.'] ∉ path.segments := by
  cases habs : path.isAbsolute with
  | true =>
    have hroot : Component.root ∈ path.components := by
      rw [components_of_absolute habs]
      exact List.mem_cons_self
    refine ⟨fun h => ?_, fun h => absurd h.1 (by simp)⟩
    obtain ⟨name, hname⟩ := h .root hroot
    exact Component.noConfusion hname
  | false =>
    rw [IsPlain, components_of_relative habs]
    by_cases hhead : path.segments.head? = some ['.']
    · rw [if_pos hhead]
      refine ⟨fun h => ?_, fun h => absurd hhead h.2.1⟩
      obtain ⟨name, hname⟩ := h .here (List.mem_append_left _ List.mem_cons_self)
      exact Component.noConfusion hname
    · rw [if_neg hhead, List.nil_append, isPlain_filterMap_iff]
      exact ⟨fun h => ⟨rfl, hhead, h⟩, fun h => h.2.2⟩

theorem IsPlain.isAbsolute {path : Path} (h : path.IsPlain) : path.isAbsolute = false :=
  (isPlain_iff.1 h).1

/-- The names that a path says. -/
def names (path : Path) : List Text :=
  path.components.filterMap Component.name?

theorem eq_map_name {steps : List Component} (h : ∀ step ∈ steps, ∃ name, step = .name name) :
    steps = (steps.filterMap Component.name?).map .name := by
  induction steps with
  | nil => rfl
  | cons step rest ih =>
    obtain ⟨name, rfl⟩ := h step List.mem_cons_self
    exact congrArg (List.cons (Component.name name))
      (ih fun s hs => h s (List.mem_cons_of_mem _ hs))

theorem IsPlain.components_eq {path : Path} (h : path.IsPlain) :
    path.components = path.names.map .name :=
  eq_map_name h

/-! ## Names -/

/-- The start of a path adds no name. -/
theorem names_eq (path : Path) :
    path.names = (path.segments.filterMap component?).filterMap Component.name? := by
  cases h : path.isAbsolute with
  | true => rw [names, components_of_absolute h, List.filterMap_cons_none rfl]
  | false =>
    rw [names, components_of_relative h, List.filterMap_append]
    split <;> rfl

/-- Where no segment is empty or leads up, the names are all segments but the points. -/
theorem filterMap_name?_component? {segments : List Text} (hempty : [] ∉ segments)
    (hparent : ['.', '.'] ∉ segments) :
    (segments.filterMap component?).filterMap Component.name? = segments.filter (· ≠ ['.']) := by
  induction segments with
  | nil => rfl
  | cons segment rest ih =>
    rw [List.mem_cons, not_or] at hempty hparent
    by_cases hhere : segment = ['.']
    · have hnone : component? segment = none := by rw [hhere]; rfl
      rw [List.filterMap_cons_none hnone, List.filter_cons_of_neg (by simp [hhere]),
        ih hempty.2 hparent.2]
    · have hsome : component? segment = some (.name segment) :=
        component?_name (Ne.symm hempty.1) hhere (Ne.symm hparent.1)
      have hname : (Component.name segment).name? = some segment := rfl
      rw [List.filterMap_cons_some hsome, List.filterMap_cons_some hname,
        List.filter_cons_of_pos (by simp [hhere]), ih hempty.2 hparent.2]

/-- A name that a path says is one of its segments. -/
theorem mem_segments_of_name_mem_components {path : Path} {name : Text}
    (h : Component.name name ∈ path.components) : name ∈ path.segments := by
  have hsegment : ∀ segments : List Text, Component.name name ∈ segments.filterMap component? →
      name ∈ segments := by
    intro segments hmem
    obtain ⟨segment, hsegment, hc⟩ := List.mem_filterMap.1 hmem
    rcases component?_cases hc with ⟨-, habsurd⟩ | hname
    · exact Component.noConfusion habsurd
    · rwa [Component.name.inj hname]
  cases habs : path.isAbsolute with
  | false =>
    rw [components_of_relative habs, List.mem_append] at h
    rcases h with h | h
    · split at h
      · exact absurd (List.mem_singleton.1 h) (by simp)
      · exact absurd h List.not_mem_nil
    · exact hsegment _ h
  | true =>
    rw [components_of_absolute habs, List.mem_cons] at h
    exact hsegment _ (h.resolve_left (by simp))

theorem slash_notMem_of_mem_names {path : Path} {name : Text}
    (h : Component.name name ∈ path.components) : '/' ∉ name :=
  notMem_of_mem_segments (mem_segments_of_name_mem_components h)

theorem slash_notMem_names (path : Path) : ∀ name ∈ path.names, '/' ∉ name := by
  intro name hname
  obtain ⟨step, hstep, hstepName⟩ := List.mem_filterMap.1 hname
  rw [Component.eq_of_name?_eq_some hstepName] at hstep
  exact slash_notMem_of_mem_names hstep

theorem slash_notMem_of_mem_folderNames {path : Path} {name : Text} (h : name ∈ path.folderNames) :
    '/' ∉ name := by
  obtain ⟨step, hstep, hname⟩ := List.mem_filterMap.1 h
  rw [Component.eq_of_name?_eq_some hname] at hstep
  exact slash_notMem_of_mem_names (List.dropLast_subset _ hstep)

end Path
end DocViews
