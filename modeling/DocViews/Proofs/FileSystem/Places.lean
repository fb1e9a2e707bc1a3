import DocViews.Proofs.FileSystem.Missing
import DocViews.Proofs.FileSystem.Tidy

/-!
# The path of a place

`Path.ofPlace` writes the names on the way to a place.  Where each of them can stand in a path, the
path says these names again, and longer places have longer paths (`Path.join_ofPlace`).

Above a node there are folders only, so the path of a place leads there on every disk that takes it
(`FileSystem.spot_ofPlace`), with or without links elsewhere.
-/

set_option autoImplicit false

namespace DocViews

open Node

/-- The names on the way to a node of a tidy tree can stand in paths. -/
theorem Node.isName_of_faceAt {tree : Node} (htidy : tree.isTidy = true) {place : Place}
    (h : faceAt place tree ≠ none) : ∀ name ∈ place, Path.IsName name := by
  obtain ⟨node, hnode⟩ := Option.ne_none_iff_exists'.1 (mt faceAt_eq_none_iff.2 h)
  exact (tidy_of_get? htidy hnode).1

/-! ## The path -/

namespace Path

section

variable {names : Place} (hnames : ∀ name ∈ names, IsName name)

include hnames

theorem ofPlace_eq : ofPlace names = ofComponents (.root :: names.map Component.name) := by
  rw [ofComponents_absolute (isInner_of_mem_names hnames), map_text_names, ofPlace]

theorem components_ofPlace : (ofPlace names).components = .root :: names.map Component.name := by
  rw [ofPlace_eq hnames]
  exact components_ofComponents (.absolute (isInner_of_mem_names hnames))

theorem resolve_ofPlace (base : Place) : (ofPlace names).resolve base = names := by
  rw [resolve, components_ofPlace hnames, List.foldl_cons, Place.foldl_onward_names]
  rfl

theorem join_ofPlace {name : Text} (hname : IsName name) :
    (ofPlace names).join ⟨name⟩ = ofPlace (names ++ [name]) := by
  have hall : ∀ other ∈ names ++ [name], IsName other := by
    intro other hother
    rcases List.mem_append.1 hother with hother | hother
    · exact hnames other hother
    · exact List.mem_singleton.1 hother ▸ hname
  rw [ofPlace_eq hall, ofPlace_eq hnames, List.map_append, List.map_singleton, ← List.cons_append,
    ofComponents_concat]
  rfl

end

theorem isAbsolute_ofPlace (names : Place) : (ofPlace names).isAbsolute = true :=
  rfl

/-- The path of a place begins with those of the places above. -/
theorem exists_text_ofPlace_append (names more : Place) :
    ∃ rest, (ofPlace (names ++ more)).text = (ofPlace names).text ++ rest := by
  by_cases hmore : more = []
  · exact ⟨[], by rw [hmore, List.append_nil, List.append_nil]⟩
  · by_cases hnames : names = []
    · exact ⟨List.intercalate ['/'] more, by rw [hnames]; rfl⟩
    · refine ⟨['/'] ++ List.intercalate ['/'] more, ?_⟩
      rw [ofPlace, Text.intercalate_append hnames hmore, List.append_assoc]
      rfl

end Path

/-! ## Following it -/

namespace FileSystem

/-- A place with a path that every disk takes: neither the path nor a name in it is too long. -/
structure Reachable (place : Place) : Prop where
  fits : (Path.ofPlace place).fault? = none
  short : ∀ name ∈ place, Text.byteSize name ≤ maxNameSize

/-- What is above is reachable, too. -/
theorem Reachable.above {folder place : Place} (h : Reachable place) (hpre : folder <+: place) :
    Reachable folder := by
  obtain ⟨more, rfl⟩ := hpre
  obtain ⟨rest, htext⟩ := Path.exists_text_ofPlace_append folder more
  exact ⟨Path.fault?_of_longer htext h.fits,
    fun name hname => h.short name (List.mem_append_left _ hname)⟩

section

variable {tree : Node} {followLast : Bool} {onLink : List Text → Place → Except DiskFault Spot}

/-- Names are followed down to what they call, whether there are links elsewhere or not. -/
theorem follow_names {names : List Text} (hnames : ∀ name ∈ names, Path.IsName name)
    (hshort : ∀ name ∈ names, Text.byteSize name ≤ maxNameSize) {place : Place}
    (hthere : faceAt (place ++ names) tree ≠ none)
    (hlink : ∀ target, faceAt (place ++ names) tree ≠ some (.link target)) :
    follow tree followLast onLink names place = .ok (.taken (place ++ names)) := by
  induction names generalizing place with
  | nil => rw [List.append_nil, follow]
  | cons name rest ih =>
    have hfolder : faceAt place tree = some emptyFolder :=
      faceAt_eq_emptyFolder_of_append (List.cons_ne_nil _ _) hthere
    have hname : Path.component? name = some (.name name) :=
      (hnames name List.mem_cons_self).isInner.1
    have hsame : place ++ name :: rest = place ++ [name] ++ rest := by simp
    rw [hsame] at hthere hlink
    have hnext := ih (fun n hn => hnames n (List.mem_cons_of_mem _ hn))
      (fun n hn => hshort n (List.mem_cons_of_mem _ hn)) hthere hlink
    obtain ⟨node, hnode⟩ := Option.ne_none_iff_exists'.1 (faceAt_ne_none_of_append hthere)
    rw [follow_name hfolder hname, if_neg (Nat.not_lt.2 (hshort name List.mem_cons_self)), hnode,
      hsame]
    cases node with
    | folder entries => exact hnext
    | file content => exact hnext
    | link target =>
      -- behind a link there is no place
      by_cases hrest : rest = []
      · rw [hrest, List.append_nil] at hlink
        exact absurd hnode (hlink target)
      · have hface := faceAt_eq_emptyFolder_of_append hrest hthere
        rw [hnode] at hface
        exact absurd hface (by simp [emptyFolder])

end

/-- **The path of a place leads there.** -/
theorem spot_ofPlace {fs : FileSystem} (htop : faceAt [] fs.tree = some emptyFolder)
    {place : Place} (hnames : ∀ name ∈ place, Path.IsName name) (hreach : Reachable place)
    (hthere : faceAt place fs.tree ≠ none)
    (hlink : ∀ target, faceAt place fs.tree ≠ some (.link target)) (followLast : Bool) :
    fs.spot followLast (Path.ofPlace place) = .ok (.taken place) := by
  obtain ⟨hnul, hsize⟩ := Path.fault?_eq_none_iff.1 hreach.fits
  obtain ⟨quiet, hquiet, hsegments⟩ :=
    Path.segments_ofComponents (.absolute (Path.isInner_of_mem_names hnames))
  rw [← Path.ofPlace_eq hnames, List.filterMap_cons_none rfl, Path.filterMap_segment?_names]
    at hsegments
  have htext : (Path.ofPlace place).text ≠ [] := List.cons_ne_nil _ _
  rw [spot, if_neg (by simpa using hnul), if_neg htext, if_neg (Nat.not_le.2 hsize),
    if_pos (Path.isAbsolute_ofPlace place), hsegments, maxLinks, followLinks,
    follow_quiet htop hquiet]
  exact follow_names hnames hreach.short hthere hlink

/-- On the way to a place that is there nothing is missing. -/
theorem missing?_ofPlace {fs : FileSystem} {place : Place}
    (hnames : ∀ name ∈ place, Path.IsName name) (hthere : faceAt place fs.tree ≠ none) :
    fs.missing? (Path.ofPlace place) = none := by
  rw [missing?_eq, Path.components_ofPlace hnames, List.filterMap_cons_none rfl,
    Path.filterMap_segment?_names, startOf, if_pos (Path.isAbsolute_ofPlace place)]
  exact firstMissing?_names hnames hthere

/-- Names that can be walked are short. -/
theorem short_of_walk {tree : Node} (hlinks : tree.LinkFree) {names : List Text}
    (hnames : ∀ name ∈ names, Path.IsName name) {place p : Place}
    (h : walk tree names place = .ok (.taken p)) :
    ∀ name ∈ names, Text.byteSize name ≤ maxNameSize := by
  induction names generalizing place with
  | nil => exact fun name hname => absurd hname List.not_mem_nil
  | cons name rest ih =>
    rw [List.forall_mem_cons] at hnames ⊢
    by_cases hfolder : faceAt place tree = some emptyFolder
    · obtain ⟨hlong, -, -, hrest⟩ := walk_name_taken hlinks hfolder hnames.1.isInner.1 h
      exact ⟨Nat.not_lt.1 hlong, ih hnames.2 hrest⟩
    · rw [walk_of_ne hfolder] at h
      exact nomatch h

/-- A place is reachable if its path leads somewhere. -/
theorem reachable_of_spot {fs : FileSystem} (hlinks : fs.tree.LinkFree) {place p : Place}
    (hnames : ∀ name ∈ place, Path.IsName name) {followLast : Bool}
    (h : fs.spot followLast (Path.ofPlace place) = .ok (.taken p)) : Reachable place := by
  refine ⟨fault?_of_spot h, ?_⟩
  have hwalk := walk_loud hlinks (walk_of_spot hlinks h)
  rw [← Path.filterMap_segment?_components, Path.components_ofPlace hnames,
    List.filterMap_cons_none rfl, Path.filterMap_segment?_names] at hwalk
  exact short_of_walk hlinks hnames hwalk

/-! ## The files of a folder -/

/-- **A folder that is asked by its path tells the names in it that lead to files**, each once. -/
theorem filesIn_ofPlace {fs : FileSystem} (htidy : fs.tree.isTidy = true) {folder : Place}
    (hfolder : faceAt folder fs.tree = some emptyFolder) (hreach : Reachable folder) :
    ∃ names, fs.filesIn (Path.ofPlace folder) = .ok names ∧ names.Nodup ∧
      ∀ name, name ∈ names ↔ faceAt (folder ++ [name]) fs.tree ≠ none ∧
        fs.isFile (Path.ofPlace (folder ++ [name])) = true := by
  obtain ⟨entries, hentries⟩ := faceAt_eq_emptyFolder_iff.1 hfolder
  obtain ⟨hnames, htidyEntries⟩ := tidy_of_get? htidy hentries
  have htop : faceAt [] fs.tree = some emptyFolder := by
    by_cases hnil : folder = []
    · exact hnil ▸ hfolder
    · refine faceAt_eq_emptyFolder_of_append hnil ?_
      rw [List.nil_append, hfolder]
      exact Option.some_ne_none _
  have hspot := spot_ofPlace htop hnames hreach (hfolder ▸ Option.some_ne_none _)
    (by simp [hfolder, emptyFolder]) true
  have hnode := node_eq_ok_iff.2 ⟨folder, hspot, hentries⟩
  refine ⟨_, by rw [filesIn, hnode], (nodup_keys_of_tidy htidyEntries).filter _, fun name => ?_⟩
  rw [List.mem_filter, faceAt_concat hentries, Keyed.mem_keys_iff, ne_eq, ne_eq, Option.map_eq_none_iff]
  refine and_congr_right fun hname => ?_
  obtain ⟨node, hnode⟩ := Option.ne_none_iff_exists'.1 hname
  rw [Path.join_ofPlace hnames (tidy_of_lookup htidyEntries hnode).1]

end FileSystem
end DocViews
