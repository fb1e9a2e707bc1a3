import DocViews.Proofs.Catalogue.Paths
import DocViews.Proofs.Conversion.Plan
import DocViews.Proofs.FileSystem.Places

/-!
# The search for the project descriptor

`Project.locate` goes up from the real place of a folder.  A folder on the way decides if it has a
*lone* descriptor: exactly one name that leads to a file and has the extension.  The search finds
the nearest of them (`Project.locate_nearest`), and nothing else on the disk has a say.
-/

set_option autoImplicit false

namespace DocViews

open Node

/-! ## Names with an extension -/

namespace Path

/-- A name is cut at its last point, if something is in front of the point. -/
theorem splitName?_eq_some_iff {name stem extension : Text} (hname : name ≠ ['.', '.']) :
    splitName? name = some (stem, extension)
      ↔ name = stem ++ '.' :: extension ∧ stem ≠ [] ∧ '.' ∉ extension := by
  have hreverse : name = stem ++ '.' :: extension
      ↔ name.reverse = extension.reverse ++ '.' :: stem.reverse := by
    rw [← List.reverse_inj, List.reverse_append, List.reverse_cons, List.append_assoc,
      List.singleton_append]
  have hcut : Text.splitOnce? '.' name.reverse = some (extension.reverse, stem.reverse)
      ↔ name.reverse = extension.reverse ++ '.' :: stem.reverse ∧ '.' ∉ extension.reverse :=
    Text.splitOnce?_eq_some_iff
  rw [← hreverse, List.mem_reverse] at hcut
  rw [splitName?, if_neg hname]
  cases hsplit : Text.splitOnce? '.' name.reverse with
  | none =>
    rw [hsplit] at hcut
    refine iff_of_false (by simp) fun h => ?_
    exact absurd (hcut.2 ⟨h.1, h.2.2⟩) (by simp)
  | some halves =>
    obtain ⟨after, before⟩ := halves
    rw [hsplit, Option.some.injEq, Prod.mk.injEq] at hcut
    simp only
    constructor
    · intro h
      split at h
      · exact absurd h (by simp)
      · next hbefore =>
        obtain ⟨rfl, rfl⟩ := Prod.mk.inj (Option.some.inj h)
        obtain ⟨heq, hpoint⟩ := hcut.1 ⟨(List.reverse_reverse _).symm, (List.reverse_reverse _).symm⟩
        exact ⟨heq, by simpa using hbefore, hpoint⟩
    · rintro ⟨heq, hstem, hpoint⟩
      obtain ⟨rfl, rfl⟩ := hcut.2 ⟨heq, hpoint⟩
      rw [if_neg (by simpa using hstem), List.reverse_reverse, List.reverse_reverse]

theorem fileName?_of_isName {name : Text} (h : IsName name) :
    fileName? ⟨name⟩ = some name := by
  have hnames : ∀ other ∈ [name], IsName other := fun other hother =>
    List.mem_singleton.1 hother ▸ h
  have hpath := ofComponents_names hnames
  have hsteps := components_ofComponents_names hnames
  rw [hpath, List.intercalate_singleton] at hsteps
  rw [fileName?, hsteps]
  rfl

end Path

namespace Project

/-- A name with an extension, in any case of its letters: what is behind the last point, if
something is in front of it. -/
def HasExtension (extension name : Text) : Prop :=
  ∃ stem own, name = stem ++ '.' :: own ∧ stem ≠ [] ∧ '.' ∉ own ∧
    own.map Char.toLower = extension.map Char.toLower

theorem hasExtension_iff {name : Text} (h : Path.IsName name) (extension : Text) :
    hasExtension extension name = true ↔ HasExtension extension name := by
  have hcut : ∀ stem own, Path.splitName? name = some (stem, own)
      ↔ name = stem ++ '.' :: own ∧ stem ≠ [] ∧ '.' ∉ own :=
    fun stem own => Path.splitName?_eq_some_iff h.2.2.1
  rw [hasExtension, Path.extension?, Path.fileName?_of_isName h, Option.bind_some, HasExtension]
  cases hsplit : Path.splitName? name with
  | none =>
    refine iff_of_false (by simp) ?_
    rintro ⟨stem, own, hname, hstem, hpoint, -⟩
    exact absurd (hsplit.symm.trans ((hcut stem own).2 ⟨hname, hstem, hpoint⟩)) (by simp)
  | some halves =>
    obtain ⟨stem, own⟩ := halves
    obtain ⟨hname, hstem, hpoint⟩ := (hcut stem own).1 hsplit
    simp only [Option.map_some, decide_eq_true_eq]
    constructor
    · exact fun hown => ⟨stem, own, hname, hstem, hpoint, hown⟩
    · rintro ⟨stem', own', hname', hstem', hpoint', hown⟩
      have hsame := (hcut stem' own').2 ⟨hname', hstem', hpoint'⟩
      rw [hsplit] at hsame
      obtain ⟨-, rfl⟩ := Prod.mk.inj (Option.some.inj hsame)
      exact hown

/-- **There is an only descriptor if one name is one, and no other name is.** -/
theorem onlyDescriptor?_eq_some_iff {names : List Text} (hnodup : names.Nodup)
    {extension name : Text} :
    onlyDescriptor? extension names = some name
      ↔ (name ∈ names ∧ hasExtension extension name = true) ∧
        ∀ other ∈ names, hasExtension extension other = true → other = name := by
  have hfilter := hnodup.filter (hasExtension extension)
  have hmem : ∀ other, other ∈ names.filter (hasExtension extension)
      ↔ other ∈ names ∧ hasExtension extension other = true := fun _ => List.mem_filter
  simp only [← and_imp, ← hmem]
  rw [onlyDescriptor?]
  generalize names.filter (hasExtension extension) = found at hfilter
  match found with
  | [] => simp
  | [one] => simp [eq_comm]
  | first :: second :: more =>
    refine iff_of_false (by simp) fun h => ?_
    have hfirst := h.2 first (by simp)
    have hsecond := h.2 second (by simp)
    exact (List.nodup_cons.1 hfilter).1 (by simp [hfirst, hsecond])

/-! ## The folders on the way up -/

theorem foldersUp_ofPlace_concat {above : Place} {name : Text}
    (hall : ∀ other ∈ above ++ [name], Path.IsName other) :
    foldersUp (Path.ofPlace (above ++ [name]))
      = Path.ofPlace (above ++ [name]) :: foldersUp (Path.ofPlace above) := by
  have habove : ∀ other ∈ above, Path.IsName other :=
    fun other hother => hall other (List.mem_append_left _ hother)
  have hsteps : (Path.ofPlace (above ++ [name])).components
      = (Path.ofPlace above).components ++ [.name name] := by
    rw [Path.components_ofPlace hall, Path.components_ofPlace habove, List.map_append]
    rfl
  have hwhole : Path.ofComponents (Path.ofPlace (above ++ [name])).components
      = Path.ofPlace (above ++ [name]) := by
    rw [Path.components_ofPlace hall, ← Path.ofPlace_eq hall]
  rw [foldersUp, foldersUp]
  simp only [hsteps, List.length_append, List.length_singleton, List.range_succ,
    List.reverse_append, List.reverse_singleton, List.singleton_append, List.map_cons]
  rw [← hwhole, hsteps, List.take_of_length_le (by simp)]
  refine congrArg _ (List.map_congr_left fun n hn => ?_)
  have hlt : n < (Path.ofPlace above).components.length := by simpa using hn
  rw [List.take_append_of_le_length hlt]

theorem foldersUp_ofPlace_nil : foldersUp (Path.ofPlace []) = [Path.ofPlace []] := by
  decide

/-! ## Descriptors on a disk -/

/-- A file in a folder that could describe a project. -/
def IsDescriptor (fs : FileSystem) (extension : Text) (folder : Place) (name : Text) : Prop :=
  faceAt (folder ++ [name]) fs.tree ≠ none ∧
    fs.isFile (Path.ofPlace (folder ++ [name])) = true ∧ HasExtension extension name

/-- The only one in its folder. -/
def IsLoneDescriptor (fs : FileSystem) (extension : Text) (folder : Place) (name : Text) : Prop :=
  IsDescriptor fs extension folder name ∧
    ∀ other, IsDescriptor fs extension folder other → other = name

/-- The lone descriptor with no other one further in, on the way up from a place. -/
structure IsNearest (fs : FileSystem) (extension : Text) (place folder : Place) (name : Text) :
    Prop where
  above : folder <+: place
  lone : IsLoneDescriptor fs extension folder name
  innermost : ∀ inner, inner <+: place → folder.Below inner →
    ∀ other, ¬ IsLoneDescriptor fs extension inner other

/-- A folder from which the search can start: it is there, and the disk takes its path. -/
structure Start (fs : FileSystem) (place : Place) : Prop where
  tidy : fs.tree.isTidy = true
  folder : faceAt place fs.tree = some emptyFolder
  reachable : FileSystem.Reachable place

namespace Start

variable {fs : FileSystem} {place : Place}

theorem above (h : Start fs place) {folder : Place} (hpre : folder <+: place) :
    Start fs folder := by
  refine ⟨h.tidy, ?_, h.reachable.above hpre⟩
  obtain ⟨more, rfl⟩ := hpre
  by_cases hmore : more = []
  · simpa [hmore] using h.folder
  · exact faceAt_eq_emptyFolder_of_append hmore (h.folder ▸ Option.some_ne_none _)

theorem isName (h : Start fs place) : ∀ name ∈ place, Path.IsName name :=
  isName_of_faceAt h.tidy (h.folder ▸ Option.some_ne_none _)

/-- **What the search makes of one folder** is its lone descriptor, if there is one. -/
theorem onlyDescriptor? (h : Start fs place) (extension : Text) :
    ∃ names, fs.filesIn (Path.ofPlace place) = .ok names ∧
      ∀ name, Project.onlyDescriptor? extension names = some name
        ↔ IsLoneDescriptor fs extension place name := by
  obtain ⟨names, hfiles, hnodup, hmem⟩ :=
    FileSystem.filesIn_ofPlace h.tidy h.folder h.reachable
  have hdescriptor : ∀ name, IsDescriptor fs extension place name
      ↔ name ∈ names ∧ hasExtension extension name = true := by
    intro name
    rw [IsDescriptor, ← and_assoc, ← hmem]
    refine and_congr_right fun hname => ?_
    have hnames := isName_of_faceAt h.tidy ((hmem name).1 hname).1
    exact (hasExtension_iff (hnames name (by simp)) extension).symm
  refine ⟨names, hfiles, fun name => ?_⟩
  rw [onlyDescriptor?_eq_some_iff hnodup, IsLoneDescriptor]
  simp only [hdescriptor, and_imp]

end Start

/-- A lone descriptor can be found from the names in the folder that lead to files. -/
theorem isLoneDescriptor_iff {fs : FileSystem} {place : Place} (h : Start fs place)
    {names : List Text} (hfiles : fs.filesIn (Path.ofPlace place) = .ok names)
    {extension name : Text} : IsLoneDescriptor fs extension place name
      ↔ onlyDescriptor? extension names = some name := by
  obtain ⟨others, hothers, honly⟩ := h.onlyDescriptor? extension
  obtain rfl : others = names := Except.ok.inj (hothers.symm.trans hfiles)
  exact (honly name).symm

/-! ## The search -/

theorem run_findDescriptor?_cons (fs : FileSystem) (extension : Text) (folder : Path)
    (above : List Path) :
    ((findDescriptor? extension (folder :: above) : StateM FileSystem _).run fs).1
      = match fs.filesIn folder with
        | .error fault => .error fault
        | .ok names =>
          match onlyDescriptor? extension names with
          | some name => .ok (some (folder.join ⟨name⟩))
          | none => ((findDescriptor? extension above : StateM FileSystem _).run fs).1 := by
  rw [findDescriptor?, FileSystem.filesIn_eq_ask, FileSystem.run_ask_bind]
  cases fs.filesIn folder with
  | error fault => rfl
  | ok names =>
    simp only
    cases onlyDescriptor? extension names <;> rfl

section

variable {fs : FileSystem} {extension : Text} {place : Place}

/-- A folder with a lone descriptor ends the search. -/
theorem run_findDescriptor?_lone {name : Text} (h : Start fs place)
    (hlone : IsLoneDescriptor fs extension place name) (above : List Path) :
    ((findDescriptor? extension (Path.ofPlace place :: above) : StateM FileSystem _).run fs).1
      = .ok (some (Path.ofPlace (place ++ [name]))) := by
  obtain ⟨names, hfiles, honly⟩ := h.onlyDescriptor? extension
  have hname : Path.IsName name := isName_of_faceAt h.tidy hlone.1.1 name (by simp)
  rw [run_findDescriptor?_cons, hfiles]
  simp only [(honly name).2 hlone, Path.join_ofPlace h.isName hname]

/-- Any other folder is passed over. -/
theorem run_findDescriptor?_pass (h : Start fs place)
    (hnone : ∀ name, ¬ IsLoneDescriptor fs extension place name) (above : List Path) :
    ((findDescriptor? extension (Path.ofPlace place :: above) : StateM FileSystem _).run fs).1
      = ((findDescriptor? extension above : StateM FileSystem _).run fs).1 := by
  obtain ⟨names, hfiles, honly⟩ := h.onlyDescriptor? extension
  have hno : onlyDescriptor? extension names = none :=
    Option.eq_none_iff_forall_ne_some.2 fun name hname => hnone name ((honly name).1 hname)
  rw [run_findDescriptor?_cons, hfiles]
  simp only [hno]

/-- The folders that are searched begin with the place itself. -/
theorem exists_foldersUp_eq_cons (hnames : ∀ name ∈ place, Path.IsName name) :
    ∃ above, foldersUp (Path.ofPlace place) = Path.ofPlace place :: above := by
  rcases List.eq_nil_or_concat' place with rfl | ⟨folder, name, rfl⟩
  · exact ⟨[], foldersUp_ofPlace_nil⟩
  · exact ⟨_, foldersUp_ofPlace_concat hnames⟩

/-- **The search ends at the nearest lone descriptor.**  The induction is on the place, from its
end. -/
theorem run_findDescriptor?_nearest {folder : Place} {name : Text} (h : Start fs place)
    (hnearest : IsNearest fs extension place folder name) :
    ((findDescriptor? extension (foldersUp (Path.ofPlace place)) : StateM FileSystem _).run fs).1
      = .ok (some (Path.ofPlace (folder ++ [name]))) := by
  induction place using List.reverseRecOn with
  | nil =>
    obtain rfl : folder = [] := List.prefix_nil.1 hnearest.above
    rw [foldersUp_ofPlace_nil]
    exact run_findDescriptor?_lone h hnearest.lone []
  | append_singleton above last ih =>
    by_cases hhere : folder = above ++ [last]
    · subst hhere
      obtain ⟨more, hmore⟩ := exists_foldersUp_eq_cons h.isName
      rw [hmore]
      exact run_findDescriptor?_lone h hnearest.lone more
    · have hpass := hnearest.innermost _ List.prefix_rfl ⟨hnearest.above, hhere⟩
      rw [foldersUp_ofPlace_concat h.isName, run_findDescriptor?_pass h hpass]
      refine ih (h.above (List.prefix_append _ _)) ⟨?_, hnearest.lone, ?_⟩
      · exact (List.prefix_concat_iff.1 hnearest.above).resolve_left hhere
      · exact fun inner hinner => hnearest.innermost inner (hinner.trans (List.prefix_append _ _))

theorem run_findDescriptor?_none (h : Start fs place)
    (hnone : ∀ folder, folder <+: place → ∀ name, ¬ IsLoneDescriptor fs extension folder name) :
    ((findDescriptor? extension (foldersUp (Path.ofPlace place)) : StateM FileSystem _).run fs).1
      = .ok none := by
  induction place using List.reverseRecOn with
  | nil =>
    rw [foldersUp_ofPlace_nil, run_findDescriptor?_pass h (hnone [] List.prefix_rfl)]
    rfl
  | append_singleton above last ih =>
    rw [foldersUp_ofPlace_concat h.isName, run_findDescriptor?_pass h (hnone _ List.prefix_rfl)]
    exact ih (h.above (List.prefix_append _ _))
      fun folder hfolder => hnone folder (hfolder.trans (List.prefix_append _ _))

/-- Where there is a lone descriptor on the way up, one of them is the nearest. -/
theorem exists_isNearest {folder : Place} {name : Text} (hpre : folder <+: place)
    (hlone : IsLoneDescriptor fs extension folder name) :
    ∃ inner other, IsNearest fs extension place inner other := by
  induction place using List.reverseRecOn with
  | nil =>
    refine ⟨folder, name, hpre, hlone, fun inner hinner hbelow => ?_⟩
    exact absurd ((List.prefix_nil.1 hpre).trans (List.prefix_nil.1 hinner).symm) hbelow.2
  | append_singleton above last ih =>
    by_cases hhere : ∃ other, IsLoneDescriptor fs extension (above ++ [last]) other
    · obtain ⟨other, hother⟩ := hhere
      refine ⟨_, other, List.prefix_rfl, hother, fun inner hinner hbelow => ?_⟩
      exact absurd (List.IsPrefix.eq_of_length_le hbelow.1 hinner.length_le) hbelow.2
    · have hfolder : folder <+: above := (List.prefix_concat_iff.1 hpre).resolve_left
        fun heq => hhere ⟨name, heq ▸ hlone⟩
      obtain ⟨inner, other, hnearest⟩ := ih hfolder
      refine ⟨inner, other, hnearest.above.trans (List.prefix_append _ _), hnearest.lone, ?_⟩
      intro deeper hdeeper hbelow another hanother
      rcases List.prefix_concat_iff.1 hdeeper with rfl | hdeeper
      · exact hhere ⟨another, hanother⟩
      · exact hnearest.innermost deeper hdeeper hbelow another hanother

/-! ## What the search answers -/

theorem run_locate {start : Path} (hstart : fs.spot true start = .ok (.taken place))
    (extension : Text) :
    ((locate start extension : StateM FileSystem _).run fs).1
      = match ((findDescriptor? extension (foldersUp (Path.ofPlace place)) :
          StateM FileSystem _).run fs).1 with
        | .error fault => .error (.disk fault)
        | .ok none => .error (.notFound (Path.ofPlace place) extension)
        | .ok (some descriptor) => ((read descriptor : StateM FileSystem _).run fs).1 := by
  have hcanonical : fs.canonical start = .ok (Path.ofPlace place) := by
    rw [FileSystem.canonical, hstart]
  have hsame := asksOnly_findDescriptor? extension (foldersUp (Path.ofPlace place)) fs
  rw [locate, FileSystem.canonical_eq_ask, FileSystem.run_ask_bind, hcanonical]
  simp only
  rw [FileSystem.run_bind, hsame]
  cases ((findDescriptor? extension (foldersUp (Path.ofPlace place)) :
    StateM FileSystem _).run fs).1 with
  | error fault => rfl
  | ok found => cases found <;> rfl

/-- A search with an answer has started from a folder that the disk takes. -/
theorem start_of_run_locate (htidy : fs.tree.isTidy = true) (hlinks : fs.tree.LinkFree)
    {start : Path} (hstart : fs.spot true start = .ok (.taken place))
    (hfolder : faceAt place fs.tree = some emptyFolder) {project : Project}
    (h : ((locate start extension : StateM FileSystem _).run fs).1 = .ok project) :
    Start fs place := by
  have hnames := isName_of_faceAt htidy (hfolder ▸ Option.some_ne_none _)
  obtain ⟨above, habove⟩ := exists_foldersUp_eq_cons hnames
  refine ⟨htidy, hfolder, ?_⟩
  rw [run_locate hstart, habove, run_findDescriptor?_cons] at h
  cases hfiles : fs.filesIn (Path.ofPlace place) with
  | error fault =>
    rw [hfiles] at h
    cases h
  | ok names =>
    rw [FileSystem.filesIn] at hfiles
    split at hfiles
    · cases hfiles
    · next hnode =>
      obtain ⟨p, hspot, -⟩ := FileSystem.node_eq_ok_iff.1 hnode
      exact FileSystem.reachable_of_spot hlinks hnames hspot
    · cases hfiles

theorem run_locate_nearest {start : Path} (hstart : fs.spot true start = .ok (.taken place))
    (h : Start fs place) {folder : Place} {name : Text}
    (hnearest : IsNearest fs extension place folder name) :
    ((locate start extension : StateM FileSystem _).run fs).1
      = ((read (Path.ofPlace (folder ++ [name])) : StateM FileSystem _).run fs).1 := by
  rw [run_locate hstart, run_findDescriptor?_nearest h hnearest]

theorem run_locate_none {start : Path} (hstart : fs.spot true start = .ok (.taken place))
    (h : Start fs place) (hnone : ¬ ∃ folder name, IsNearest fs extension place folder name) :
    ((locate start extension : StateM FileSystem _).run fs).1
      = .error (.notFound (Path.ofPlace place) extension) := by
  have hlone : ∀ folder, folder <+: place → ∀ name,
      ¬ IsLoneDescriptor fs extension folder name :=
    fun folder hpre name hlone => hnone (exists_isNearest hpre hlone)
  rw [run_locate hstart, run_findDescriptor?_none h hlone]

/-- **The lone descriptors on the way up decide the answer**, with what they hold: other files,
other folders, and folders with no or several descriptors have no say. -/
theorem locate_congr {gs : FileSystem} {start : Path}
    (hfs : fs.spot true start = .ok (.taken place)) (hgs : gs.spot true start = .ok (.taken place))
    (h : Start fs place) (h' : Start gs place)
    (hlone : ∀ folder, folder <+: place → ∀ name,
      IsLoneDescriptor gs extension folder name ↔ IsLoneDescriptor fs extension folder name)
    (htext : ∀ folder, folder <+: place → ∀ name, IsLoneDescriptor fs extension folder name →
      gs.readText (Path.ofPlace (folder ++ [name])) = fs.readText (Path.ofPlace (folder ++ [name]))) :
    ((locate start extension : StateM FileSystem _).run gs).1
      = ((locate start extension : StateM FileSystem _).run fs).1 := by
  have hnearest : ∀ folder name, IsNearest gs extension place folder name
      ↔ IsNearest fs extension place folder name := by
    intro folder name
    constructor
    · rintro ⟨hpre, hlast, hinner⟩
      exact ⟨hpre, (hlone folder hpre name).1 hlast,
        fun inner hin hbelow other hother => hinner inner hin hbelow other
          ((hlone inner hin other).2 hother)⟩
    · rintro ⟨hpre, hlast, hinner⟩
      exact ⟨hpre, (hlone folder hpre name).2 hlast,
        fun inner hin hbelow other hother => hinner inner hin hbelow other
          ((hlone inner hin other).1 hother)⟩
  by_cases hsome : ∃ folder name, IsNearest fs extension place folder name
  · obtain ⟨folder, name, hfound⟩ := hsome
    rw [run_locate_nearest hfs h hfound,
      run_locate_nearest hgs h' ((hnearest folder name).2 hfound), run_read, run_read,
      htext folder hfound.above name hfound.lone]
  · have hnone : ¬ ∃ folder name, IsNearest gs extension place folder name := by
      simpa only [hnearest] using hsome
    rw [run_locate_none hfs h hsome, run_locate_none hgs h' hnone]

end

/-- **The search finds the nearest lone descriptor.**  If one of the folders from the real place of
the start up to the root holds exactly one file with the extension, the innermost of them decides:
the answer is what its descriptor declares, or that this descriptor declares nothing.  If none does,
the answer names the real place of the start.  The disk stays as it is, and every disk with the same
lone descriptors on the way up has the same answer. -/
theorem locate_nearest {fs : FileSystem} {start : Path} {place : Place}
    (hstart : fs.spot true start = .ok (.taken place)) (h : Start fs place) (extension : Text) :
    (∀ folder name, IsNearest fs extension place folder name →
      (locate start extension : StateM FileSystem _).run fs
        = (match fs.readText (Path.ofPlace (folder ++ [name])) with
            | .error fault => .error (.disk fault)
            | .ok text =>
              match RootNamespace.ofText? text with
              | some declared => .ok ⟨declared, Path.ofPlace (folder ++ [name])⟩
              | none => .error (.noRootNamespace (Path.ofPlace (folder ++ [name]))), fs)) ∧
    ((¬ ∃ folder name, IsNearest fs extension place folder name) →
      (locate start extension : StateM FileSystem _).run fs
        = (.error (.notFound (Path.ofPlace place) extension), fs)) ∧
    ∀ gs : FileSystem, gs.spot true start = .ok (.taken place) → Start gs place →
      (∀ folder, folder <+: place → ∀ name,
        (IsLoneDescriptor gs extension folder name ↔ IsLoneDescriptor fs extension folder name) ∧
        (IsLoneDescriptor fs extension folder name →
          gs.readText (Path.ofPlace (folder ++ [name]))
            = fs.readText (Path.ofPlace (folder ++ [name])))) →
      ((locate start extension : StateM FileSystem _).run gs).1
        = ((locate start extension : StateM FileSystem _).run fs).1 := by
  have hsame := asksOnly_locate start extension fs
  refine ⟨fun folder name hnearest => ?_, fun hnone => ?_, fun gs hgs h' hlone => ?_⟩
  · refine Prod.ext ?_ hsame
    rw [run_locate_nearest hstart h hnearest, run_read]
    rfl
  · exact Prod.ext (run_locate_none hstart h hnone) hsame
  · exact locate_congr hstart hgs h h' (fun folder hpre name => (hlone folder hpre name).1)
      fun folder hpre name => (hlone folder hpre name).2

/-- A repository with two descriptors in the folder above the documents, and one at the top.  A link
leads to the documents. -/
def nestedDisk : FileSystem where
  tree := .folder [
    ("Acme.CsProj".toList,
      .file (.text "<RootNamespace> Acme </RootNamespace>".toList)),
    ("manual".toList, .link ⟨"repo/docs/".toList⟩),
    ("repo".toList, .folder [
      ("a.csproj".toList, .file (.text "<RootNamespace>A</RootNamespace>".toList)),
      ("b.csproj".toList, .file (.text "<RootNamespace>B</RootNamespace>".toList)),
      ("docs".toList, .folder [
        (".csproj".toList, .file (.text [])),
        ("old.csproj".toList, .folder [])])])]
  workingFolder := []

/-- Neither a hidden file without an extension nor a folder ends the search, nor two files. -/
theorem locate_nearest_nested :
    (nestedDisk.spot true ⟨"manual".toList⟩ = .ok (.taken ["repo".toList, "docs".toList]) ∧
      Start nestedDisk ["repo".toList, "docs".toList] ∧
      IsNearest nestedDisk "csproj".toList ["repo".toList, "docs".toList] []
        "Acme.CsProj".toList) ∧
    (locate ⟨"manual".toList⟩ "csproj".toList : StateM FileSystem _).run nestedDisk
      = (.ok ⟨"Acme".toList, ⟨"/Acme.CsProj".toList⟩⟩, nestedDisk) := by
  have hspot : nestedDisk.spot true ⟨"manual".toList⟩
      = .ok (.taken ["repo".toList, "docs".toList]) := by decide +kernel
  have hstart : Start nestedDisk ["repo".toList, "docs".toList] :=
    ⟨by decide +kernel, rfl, by decide +kernel, by decide +kernel⟩
  have htop : nestedDisk.filesIn (Path.ofPlace []) = .ok ["Acme.CsProj".toList] := by
    decide +kernel
  have hrepo : nestedDisk.filesIn (Path.ofPlace ["repo".toList])
      = .ok ["a.csproj".toList, "b.csproj".toList] := by decide +kernel
  have hdocs : nestedDisk.filesIn (Path.ofPlace ["repo".toList, "docs".toList])
      = .ok [".csproj".toList] := by decide +kernel
  have hnearest : IsNearest nestedDisk "csproj".toList ["repo".toList, "docs".toList] []
      "Acme.CsProj".toList := by
    refine ⟨List.nil_prefix, ?_, fun inner hinner hbelow other hother => ?_⟩
    · exact (isLoneDescriptor_iff (hstart.above List.nil_prefix) htop).2 (by decide +kernel)
    · have hambiguous : onlyDescriptor? "csproj".toList ["a.csproj".toList, "b.csproj".toList]
          = none := by decide +kernel
      have hhidden : onlyDescriptor? "csproj".toList [".csproj".toList] = none := by
        decide +kernel
      rcases List.prefix_cons_iff.1 hinner with rfl | ⟨more, rfl, hmore⟩
      · exact absurd rfl hbelow.2
      · rcases List.prefix_cons_iff.1 hmore with rfl | ⟨rest, rfl, hrest⟩
        · rw [isLoneDescriptor_iff (hstart.above (by decide)) hrepo, hambiguous] at hother
          exact absurd hother (by simp)
        · obtain rfl := List.prefix_nil.1 hrest
          rw [isLoneDescriptor_iff hstart hdocs, hhidden] at hother
          exact absurd hother (by simp)
  have hread : nestedDisk.readText (Path.ofPlace ([] ++ ["Acme.CsProj".toList]))
      = .ok "<RootNamespace> Acme </RootNamespace>".toList := by decide +kernel
  have hname : RootNamespace.ofText? "<RootNamespace> Acme </RootNamespace>".toList
      = some "Acme".toList := by decide +kernel
  have hanswer := (locate_nearest hspot hstart "csproj".toList).1 _ _ hnearest
  rw [hread] at hanswer
  simp only [hname] at hanswer
  exact ⟨⟨hspot, hstart, hnearest⟩, hanswer⟩

end Project
end DocViews
