import DocViews.Proofs.Conversion.Writing

/-!
# Where views are written

The path of a view is the output of its document below the output root.  It descends if the output
does not go up, and the output root does not go up either or is there already
(`Conversion.exists_descent`).  An output root that goes up and is not there may lead anywhere by
the time it is made.
-/

set_option autoImplicit false

namespace DocViews

open Node FileSystem

/-- Inside a path only two points go up. -/
theorem Path.parent_mem_components_iff (path : Path) :
    Component.parent ∈ path.components ↔ ['.', '.'] ∈ path.segments := by
  have hlead : Component.parent ∉ path.lead := by
    rw [lead]
    split
    · simp
    · split <;> simp
  rw [components_eq_lead, List.mem_append, or_iff_right hlead, List.mem_filterMap]
  constructor
  · rintro ⟨segment, hsegment, hc⟩
    rcases component?_cases hc with ⟨rfl, -⟩ | hname
    · exact hsegment
    · exact Component.noConfusion hname
  · exact fun h => ⟨_, h, rfl⟩

/-- An output says a name, in whatever it is written behind. -/
theorem Document.exists_name_output (d : Document) (extension front : Text) :
    ∃ segment ∈ List.splitOn '/' (front ++ (d.output extension).text),
      Path.component? segment = some (.name segment) := by
  obtain ⟨before, hbefore⟩ : ∃ before,
      (d.output extension).text = before ++ (d.stem ++ ".g.".toList ++ extension) := by
    rw [output]
    split
    · exact ⟨[], rfl⟩
    · exact Path.exists_text_join _ _
  have hinfix : ".g.".toList <:+: front ++ (d.output extension).text :=
    ⟨front ++ before ++ d.stem, extension, by rw [hbefore]; simp only [List.append_assoc]⟩
  obtain ⟨segment, hsegment, hpart⟩ :=
    Text.exists_mem_splitOn_of_infix hinfix (show '/' ∉ ".g.".toList by decide)
  exact ⟨segment, hsegment, Path.component?_of_three_le_length hpart.length_le⟩

namespace Conversion

/-- The path of the view of a document. -/
def viewPath (settings : Settings) (output : Path) (d : Document) : Path :=
  output.join (d.output settings.target.extension)

/-- Whether a path leads down when it is written below an output root: it does not go up, and
neither does the root, unless the root is there. -/
def LeadsDown (fs : FileSystem) (output path : Path) : Prop :=
  .parent ∉ path.components ∧
    (.parent ∈ (output.join path).components → fs.isFolder output = true)

instance (fs : FileSystem) (output path : Path) : Decidable (LeadsDown fs output path) :=
  inferInstanceAs (Decidable (.parent ∉ path.components ∧
    (.parent ∈ (output.join path).components → fs.isFolder output = true)))

/-- Segments that do not go up, but say something, go down by names. -/
theorem exists_names {segments : List Text} (hparent : ['.', '.'] ∉ segments)
    (hname : ∃ segment ∈ segments, Path.component? segment = some (.name segment)) :
    ∃ front last, segments.filterMap Path.component? = (front ++ [last]).map .name := by
  have hnames := Path.eq_map_name (Path.isPlain_filterMap_iff.2 hparent)
  generalize (segments.filterMap Path.component?).filterMap Component.name? = names at hnames
  have hne : names ≠ [] := by
    rintro rfl
    obtain ⟨segment, hsegment, hc⟩ := hname
    have hmem := List.mem_filterMap.2 ⟨segment, hsegment, hc⟩
    rw [hnames] at hmem
    exact absurd hmem (by simp)
  exact ⟨names.dropLast, names.getLast hne, by rw [List.dropLast_concat_getLast hne, hnames]⟩

variable {fs : FileSystem} {output : Path}

/-- An output root that is there is walked to from where its path starts. -/
theorem exists_walk_of_isFolder (hlinks : fs.tree.LinkFree) (h : fs.isFolder output = true) :
    ∃ place, walk fs.tree output.segments (fs.startOf output) = .ok (.taken place) ∧
      faceAt place fs.tree = some emptyFolder := by
  obtain ⟨place, entries, hspot, hget⟩ := isFolder_iff.1 h
  exact ⟨place, walk_of_spot hlinks hspot, faceAt_eq_emptyFolder_iff.2 ⟨entries, hget⟩⟩

/-- **The path of a view descends.** -/
theorem exists_descent (hlinks : fs.tree.LinkFree)
    (hhome : faceAt fs.workingFolder fs.tree = some emptyFolder) (settings : Settings)
    (d : Document) (h : LeadsDown fs output (d.output settings.target.extension)) :
    Nonempty (Descent fs (viewPath settings output d)) := by
  obtain ⟨hpath, hroot⟩ := h
  rw [Path.parent_mem_components_iff] at hpath hroot
  rw [viewPath]
  by_cases hup : ['.', '.'] ∈ (output.join (d.output settings.target.extension)).segments
  · -- the root is there, and what is below it goes down from there
    rcases output.join_cases (d.output settings.target.extension) with
      hjoin | ⟨up, hsegments, hrootsegments, habs⟩
    · exact absurd (hjoin ▸ hup) hpath
    obtain ⟨folder, hwalk, hfolder⟩ := exists_walk_of_isFolder hlinks (hroot hup)
    obtain ⟨front, last, hgoes⟩ := exists_names hpath
      (d.exists_name_output settings.target.extension [])
    have hstart : fs.startOf (output.join (d.output settings.target.extension))
        = fs.startOf output := by rw [startOf, startOf, habs]
    refine ⟨⟨up, _, folder, front, last, hlinks, hsegments, ?_, hfolder, hgoes⟩⟩
    rw [hstart]
    rcases hrootsegments with hsame | hslash
    · rw [← hsame]
      exact hwalk
    · -- the slash at the end of the root asks for a folder and goes nowhere
      rw [hslash, walk_append hlinks up (by simp)] at hwalk
      split at hwalk
      · next p hp =>
        by_cases hpfolder : faceAt p fs.tree = some emptyFolder
        · rw [walk_silent hpfolder rfl] at hwalk
          rw [hp]
          exact hwalk
        · rw [walk_of_ne hpfolder] at hwalk
          exact absurd hwalk (by simp)
      · exact absurd hwalk (by simp)
      · exact absurd hwalk (by simp)
  · -- nothing goes up: the whole path goes down from where it starts
    have hname : ∃ segment ∈ (output.join (d.output settings.target.extension)).segments,
        Path.component? segment = some (.name segment) := by
      obtain ⟨front, htext⟩ := output.exists_text_join (d.output settings.target.extension)
      rw [Path.segments, htext]
      exact d.exists_name_output settings.target.extension front
    obtain ⟨front, last, hgoes⟩ := exists_names hup hname
    refine ⟨⟨[], _, _, front, last, hlinks, rfl, rfl, ?_, hgoes⟩⟩
    -- a path starts at the top or in the working folder, and there are folders
    rw [startOf]
    split
    · by_cases hwork : fs.workingFolder = []
      · rwa [hwork] at hhome
      · exact faceAt_eq_emptyFolder_of_append hwork (by simp [hhome])
    · exact hhome

end Conversion
end DocViews
