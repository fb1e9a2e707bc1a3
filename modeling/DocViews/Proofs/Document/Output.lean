import DocViews.Document
import DocViews.Proofs.FileSystem.Lexical

/-!
# Where the view of a document goes

The output of a document is made of the names of its folders without their numbers, and of a file
name with its stem and the extension of the target.  The folders have names on the disk, so none of
them is a point or two points; but what is left of a name without its number may well be, and an
extension may hold slashes.

`Document.Straight` excludes that, and `Document.confined_output` says that nothing else has to be
excluded: an output stays below the output root exactly when its document is straight.
-/

set_option autoImplicit false

namespace DocViews

/-! ## Names without numbers -/

theorem NumberedName.mem_of_mem_name {text : Text} {c : Char}
    (h : c ∈ (NumberedName.ofText text).name) : c ∈ text := by
  rw [NumberedName.ofText] at h
  split at h
  · next digits name hcut =>
    split at h
    · rw [Text.eq_of_splitOnce?_eq_some hcut]
      exact List.mem_append_right _ (List.mem_cons_of_mem _ h)
    · exact h
  · exact h

namespace Location

theorem ne_nil_of_mem_segmentsOf {names : List Text} {segment : Text}
    (h : segment ∈ segmentsOf names) : segment ≠ [] := by
  have hne := (List.mem_filter.1 h).2
  simpa using hne

theorem slash_notMem_of_mem_segmentsOf {names : List Text} (hnames : ∀ name ∈ names, '/' ∉ name)
    {segment : Text} (h : segment ∈ segmentsOf names) : '/' ∉ segment := by
  obtain ⟨name, hname, rfl⟩ := List.mem_map.1 (List.mem_filter.1 h).1
  exact fun hc => hnames name hname (NumberedName.mem_of_mem_name hc)

end Location

namespace Path

theorem mem_of_mem_splitName? {name stem extension : Text}
    (h : splitName? name = some (stem, extension)) {c : Char} (hc : c ∈ stem) : c ∈ name := by
  rw [splitName?] at h
  split at h
  · exact absurd h (by simp)
  · split at h
    · next after before hcut =>
      split at h
      · exact absurd h (by simp)
      · obtain ⟨rfl, -⟩ := Prod.mk.inj (Option.some.inj h)
        rw [← List.mem_reverse, Text.eq_of_splitOnce?_eq_some hcut]
        exact List.mem_append_right _ (List.mem_cons_of_mem _ (List.mem_reverse.1 hc))
    · exact absurd h (by simp)

theorem slash_notMem_stem (path : Path) : '/' ∉ path.stem := by
  rw [stem]
  cases hname : path.fileName? with
  | none => exact List.not_mem_nil
  | some name =>
    have hslash : '/' ∉ name := by
      obtain ⟨step, hstep, hs⟩ := Option.bind_eq_some_iff.1 hname
      rw [Component.eq_of_name?_eq_some hs] at hstep
      exact slash_notMem_of_mem_names (List.mem_of_getLast? hstep)
    simp only
    cases hsplit : splitName? name with
    | none => exact hslash
    | some cut => exact fun hc => hslash (mem_of_mem_splitName? hsplit hc)

end Path

namespace Document

/-! ## Described documents -/

/-- What holds of every document that is described from a path. -/
structure IsDescribed (conventions : Conventions) (d : Document) : Prop where
  location : d.location = Location.ofNames conventions.generatedRoot d.path.folderNames
  stem : '/' ∉ d.stem

theorem isDescribed_describe (conventions : Conventions) (workingFolder root path : Path) :
    (describe conventions workingFolder root path).IsDescribed conventions :=
  ⟨rfl, fun h => Path.slash_notMem_stem path (NumberedName.mem_of_mem_name h)⟩

/-! ## Segments of an output -/

/-- The names of a document's folders, without their numbers. -/
def folderSegments (d : Document) : List Text :=
  Location.segmentsOf d.path.folderNames

/-- The name of a generated file. -/
def outputName (d : Document) (extension : Text) : Text :=
  d.stem ++ ".g.".toList ++ extension

variable {conventions : Conventions} {d : Document} {extension : Text}

theorem slash_notMem_of_mem_folderSegments {segment : Text} (h : segment ∈ d.folderSegments) :
    '/' ∉ segment :=
  Location.slash_notMem_of_mem_segmentsOf
    (fun _ hname => Path.slash_notMem_of_mem_folderNames hname) h

/-- The file name cut at its slashes: an extension without any is a part of the only piece. -/
theorem splitOn_outputName (h : d.IsDescribed conventions) (extension : Text) :
    ∃ first, 3 ≤ first.length ∧
      List.splitOn '/' (d.outputName extension) = first :: (List.splitOn '/' extension).tail := by
  obtain ⟨first, rest, hs⟩ := List.exists_cons_of_ne_nil (List.splitOn_ne_nil '/' extension)
  have hstart : '/' ∉ d.stem ++ ".g.".toList := List.not_mem_append h.stem (by decide)
  refine ⟨d.stem ++ ".g.".toList ++ first, ?_, ?_⟩
  · have hthree : ".g.".toList.length = 3 := rfl
    rw [List.length_append, List.length_append, hthree]
    omega
  · rw [outputName, Text.splitOn_append_left hstart hs, hs]
    rfl

theorem isAbsolute_outputName (h : d.IsDescribed conventions) (extension : Text) :
    (Path.mk (d.outputName extension)).isAbsolute = false := by
  obtain ⟨first, hlength, hfirst⟩ := splitOn_outputName h extension
  exact Path.isAbsolute_eq_false hfirst (List.length_pos_iff.1 (by omega))

/-- **The segments of an output**: those of the folders, then those of the file name. -/
theorem segments_output (h : d.IsDescribed conventions) (extension : Text) :
    (d.output extension).segments
      = d.folderSegments ++ List.splitOn '/' (d.outputName extension) := by
  have hfolder : d.location.outputFolder = List.intercalate ['/'] d.folderSegments := by
    rw [h.location]
    rfl
  have hempty : [] ∉ d.folderSegments := fun hs => Location.ne_nil_of_mem_segmentsOf hs rfl
  have hslash : ∀ name ∈ d.folderSegments, '/' ∉ name :=
    fun _ hs => slash_notMem_of_mem_folderSegments hs
  rw [output, hfolder]
  split
  · next hnil =>
    have hnone : d.folderSegments = [] := by
      by_contra hne
      have hsplit := List.splitOn_intercalate '/' hslash hne
      rw [hnil] at hsplit
      exact hempty (hsplit ▸ List.mem_singleton_self [])
    rw [hnone]
    rfl
  · next hne =>
    have hnone : d.folderSegments ≠ [] := fun h => hne (by rw [h]; rfl)
    exact Path.segments_join hnone hslash hempty (isAbsolute_outputName h extension)

theorem isAbsolute_output (h : d.IsDescribed conventions) (extension : Text) :
    (d.output extension).isAbsolute = false := by
  obtain ⟨first, hlength, hfirst⟩ := splitOn_outputName h extension
  have hsegments := segments_output h extension
  rw [hfirst] at hsegments
  cases hfolders : d.folderSegments with
  | nil =>
    rw [hfolders, List.nil_append] at hsegments
    exact Path.isAbsolute_eq_false hsegments (List.length_pos_iff.1 (by omega))
  | cons segment rest =>
    have hmem : segment ∈ d.folderSegments := hfolders ▸ List.mem_cons_self
    rw [hfolders, List.cons_append] at hsegments
    exact Path.isAbsolute_eq_false hsegments (Location.ne_nil_of_mem_segmentsOf hmem)

/-- Where the names of a document's folders and then its file name lead from a folder on. -/
def landing (d : Document) (extension : Text) (folder : Place) : Place :=
  Place.along folder (d.folderSegments ++ List.splitOn '/' (d.outputName extension))

theorem resolve_output (h : d.IsDescribed conventions) (extension : Text) (folder : Place) :
    (d.output extension).resolve folder = d.landing extension folder := by
  rw [Path.resolve_eq, isAbsolute_output h, segments_output h]
  rfl

/-! ## Straight documents -/

/-- A document whose output goes nowhere but down: what is left of the names of its folders is never
two points, and not a point at the start; nor does the extension go up. -/
structure Straight (d : Document) (extension : Text) : Prop where
  noParent : ['.', '.'] ∉ d.folderSegments
  noPoint : d.folderSegments.head? ≠ some ['.']
  extension : ['.', '.'] ∉ (List.splitOn '/' extension).tail

instance (d : Document) (extension : Text) : Decidable (d.Straight extension) :=
  decidable_of_iff (['.', '.'] ∉ d.folderSegments ∧ d.folderSegments.head? ≠ some ['.'] ∧
      ['.', '.'] ∉ (List.splitOn '/' extension).tail)
    ⟨fun h => ⟨h.1, h.2.1, h.2.2⟩, fun h => ⟨h.noParent, h.noPoint, h.extension⟩⟩

theorem isPlain_output_iff (h : d.IsDescribed conventions) :
    (d.output extension).IsPlain ↔ d.Straight extension := by
  obtain ⟨first, hlength, hfirst⟩ := splitOn_outputName h extension
  have hpoint : first ≠ ['.'] := by
    rintro rfl
    exact absurd hlength (by decide)
  have hparent : first ≠ ['.', '.'] := by
    rintro rfl
    exact absurd hlength (by decide)
  have hhead : (d.folderSegments ++ first :: (List.splitOn '/' extension).tail).head? = some ['.']
      ↔ d.folderSegments.head? = some ['.'] := by
    cases d.folderSegments with
    | nil => simp [hpoint]
    | cons segment rest => rfl
  rw [Path.isPlain_iff, segments_output h, hfirst, Ne, hhead, List.mem_append, List.mem_cons,
    not_or, not_or]
  constructor
  · rintro ⟨-, hp, hu, -, he⟩
    exact ⟨hu, hp, he⟩
  · rintro ⟨hu, hp, he⟩
    exact ⟨isAbsolute_output h extension, hp, hu, hparent.symm, he⟩

theorem landing_of_straight (h : d.IsDescribed conventions) (hs : d.Straight extension)
    (folder : Place) : d.landing extension folder = folder ++ (d.output extension).names := by
  rw [← resolve_output h, ((isPlain_output_iff h).2 hs).resolve_eq]

/-- An output says a name: the first piece of the file name is one. -/
theorem names_output_ne_nil (h : d.IsDescribed conventions) (extension : Text) :
    (d.output extension).names ≠ [] := by
  obtain ⟨first, hlength, hfirst⟩ := splitOn_outputName h extension
  have hname : first ∈ (d.output extension).names := by
    rw [Path.names_eq, segments_output h, hfirst, List.mem_filterMap]
    exact ⟨.name first, List.mem_filterMap.2 ⟨first, List.mem_append_right _ List.mem_cons_self,
      Path.component?_of_three_le_length hlength⟩, rfl⟩
  exact List.ne_nil_of_mem hname

/-- **An output is confined exactly when its document is straight.** -/
theorem confined_output (h : d.IsDescribed conventions) :
    (d.output extension).Confined ↔ d.Straight extension := by
  rw [Path.confined_iff, isPlain_output_iff h]
  exact and_iff_left (names_output_ne_nil h extension)

/-! ## Straight documents and extensions without slashes -/

/-- The names of the output folder. -/
def outputFolders (d : Document) : List Text :=
  d.folderSegments.filter (· ≠ ['.'])

theorem names_output_of_straight (h : d.IsDescribed conventions) (hs : d.Straight extension)
    (hext : '/' ∉ extension) :
    (d.output extension).names = d.outputFolders ++ [d.outputName extension] := by
  have hempty : [] ∉ d.folderSegments := fun hmem => Location.ne_nil_of_mem_segmentsOf hmem rfl
  have hslash : '/' ∉ d.outputName extension :=
    List.not_mem_append (List.not_mem_append h.stem (by decide)) hext
  obtain ⟨first, hlength, hfirst⟩ := splitOn_outputName h extension
  rw [List.splitOn_eq_singleton hslash] at hfirst
  obtain rfl : d.outputName extension = first := (List.cons.inj hfirst).1
  have hname : Path.component? (d.outputName extension) = some (.name (d.outputName extension)) :=
    Path.component?_of_three_le_length hlength
  rw [Path.names_eq, segments_output h, List.splitOn_eq_singleton hslash, List.filterMap_append,
    List.filterMap_append, Path.filterMap_name?_component? hempty hs.noParent,
    List.filterMap_cons_some hname]
  rfl

end Document
end DocViews
