import DocViews.Proofs.Catalogue.Discovery
import DocViews.Proofs.Catalogue.Reading
import DocViews.Proofs.Conversion.Task
import DocViews.Proofs.Project.Search

/-!
# Planning again

A plan is made of answers about files: the settings, the descriptor, and the documents below the
input root.  A run writes below its output folder, and all else that it makes are folders
(`FileSystem.FilledBelow`).  So where none of these files can be below the output folder, the plan
is the same after the run (`Conversion.plan_again`).

For the settings and the descriptor that are looked for this need not be asked: they are in the
input root or above it, and the output folder is apart from the input root.
-/

set_option autoImplicit false

namespace DocViews

open Node

/-- What is in a folder is below another one only if the folder is there or below. -/
theorem Place.not_below_concat {top folder : Place} (h : ¬ top <+: folder) (name : Text) :
    ¬ top.Below (folder ++ [name]) :=
  fun hbelow => (List.prefix_concat_iff.1 hbelow.1).elim hbelow.2 h

namespace FileSystem

/-- A disk that has come out of another one by writing files below a folder, which is there now, and
by making folders anywhere. -/
structure FilledBelow (top : Place) (fs gs : FileSystem) : Prop where
  workingFolder : gs.workingFolder = fs.workingFolder
  grown : Grown (top <+: ·) fs.tree gs.tree
  folder : faceAt top gs.tree = some emptyFolder

namespace FilledBelow

variable {top : Place} {fs gs : FileSystem} {path : Path}

/-- **Elsewhere there are the same files.** -/
theorem get?_eq_file_iff (h : FilledBelow top fs gs) {place : Place} (hplace : ¬ top.Below place)
    (content : FileContent) :
    get? place gs.tree = some (.file content) ↔ get? place fs.tree = some (.file content) := by
  by_cases hpre : top <+: place
  · -- the folder itself is none of them
    obtain rfl : top = place := by_contra fun hne => hplace ⟨hpre, hne⟩
    have hnow : ∀ new, faceAt top gs.tree ≠ some (.file new) := fun new hnew =>
      absurd (Option.some.inj (h.folder.symm.trans hnew)) (by simp [emptyFolder])
    rw [← faceAt_eq_file_iff, ← faceAt_eq_file_iff]
    refine iff_of_false (hnow content) fun hold => ?_
    obtain ⟨new, hnew⟩ := h.grown.file hold
    exact hnow new hnew
  · exact h.grown.get?_eq_file_iff hpre content

/-- A file elsewhere reads the same. -/
theorem readText_eq (h : FilledBelow top fs gs) (hlinks : fs.tree.LinkFree)
    (hfile : fs.isFile path = true) (hclear : ¬ top.Below (path.resolve fs.workingFolder)) :
    gs.readText path = fs.readText path := by
  obtain ⟨place, content, hspot, hget⟩ := isFile_iff.1 hfile
  have hplace : place = path.resolve fs.workingFolder := spot_place hlinks hspot
  refine readText_congr ?_ fun p hp => ?_
  · rw [hspot, spot_taken_grown h.grown h.workingFolder hspot]
  · obtain rfl : place = p := Spot.taken.inj (Except.ok.inj (hspot.symm.trans hp))
    rw [faceAt_eq_file_iff.2 hget]
    exact faceAt_eq_file_iff.2 ((h.get?_eq_file_iff (hplace ▸ hclear) content).2 hget)

/-- Elsewhere a path leads to a file if it did, unless something was missing on its way to what was
there. -/
theorem isFile_eq (h : FilledBelow top fs gs) (hlinks : fs.tree.LinkFree)
    (hhome : faceAt fs.workingFolder fs.tree = some emptyFolder)
    (hmissing : faceAt (path.resolve fs.workingFolder) fs.tree ≠ none → fs.missing? path = none)
    (hclear : ¬ top.Below (path.resolve fs.workingFolder)) : gs.isFile path = fs.isFile path := by
  rw [Bool.eq_iff_iff]
  refine ⟨fun hfile => ?_, isFile_grown h.grown h.workingFolder⟩
  obtain ⟨place, content, hspot, hget⟩ := isFile_iff.1 hfile
  have hplace : place = path.resolve fs.workingFolder := by
    rw [← h.workingFolder]
    exact spot_place (h.grown.linkFree hlinks) hspot
  rw [← hplace] at hmissing hclear
  have hold := (h.get?_eq_file_iff hclear content).1 hget
  have hthere : fs.missing? path = none :=
    hmissing (faceAt_eq_file_iff.2 hold ▸ Option.some_ne_none _)
  have hsame := spot_eq_of_grown h.grown hlinks h.workingFolder
    (faceAt_startOf_ne_none hhome path) (by simp [hthere]) true
  exact isFile_iff.2 ⟨place, content, hsame ▸ hspot, hold⟩

end FilledBelow

end FileSystem

open FileSystem

section

variable {top : Place} {fs : ReadyDisk} {gs : TidyDisk} (h : FilledBelow top fs gs)
  (hlinks : fs.tree.LinkFree)

include h hlinks

/-! ## The settings -/

theorem Settings.run_loadFile_eq {path : Path} (hfile : fs.isFile path = true)
    (hclear : ¬ top.Below (path.resolve fs.workingFolder)) :
    ((Settings.loadFile path : StateM FileSystem _).run gs).1
      = ((Settings.loadFile path : StateM FileSystem _).run fs).1 := by
  rw [Settings.run_loadFile, Settings.run_loadFile, h.readText_eq hlinks hfile hclear]

theorem Settings.run_load_eq {root : Path} {place : Place}
    (hroot : fs.spot true root = .ok (.taken place)) (hclear : ¬ top.Below (place ++ [fileName])) :
    ((Settings.load root : StateM FileSystem _).run gs).1
      = ((Settings.load root : StateM FileSystem _).run fs).1 := by
  have hnames : ∀ name ∈ [fileName], Path.IsName name := by decide
  have hplace : (root.join ⟨fileName⟩).resolve fs.workingFolder = place ++ [fileName] := by
    have hresolve := Catalogue.resolve_pathOf root hnames fs.workingFolder
    rwa [← spot_place hlinks hroot] at hresolve
  have hsame : gs.isFile (root.join ⟨fileName⟩) = fs.isFile (root.join ⟨fileName⟩) := by
    refine h.isFile_eq hlinks fs.home (fun hthere => ?_) (hplace ▸ hclear)
    rw [hplace] at hthere
    exact Catalogue.missing?_pathOf hlinks hroot hnames hthere
  have hask : ∀ disk : FileSystem, (Disk.isFile (root.join ⟨fileName⟩) : StateM FileSystem _).run disk
      = (disk.isFile (root.join ⟨fileName⟩), disk) := fun _ => rfl
  rw [Settings.load, run_bind, run_bind, hask, hask, hsame]
  cases hfile : fs.isFile (root.join ⟨fileName⟩) with
  | true => exact Settings.run_loadFile_eq h hlinks hfile (hplace ▸ hclear)
  | false =>
    simp only [Bool.false_eq_true, if_false]
    cases Settings.resolve [] <;> rfl

/-! ## The project -/

namespace Project

theorem run_read_eq {descriptor : Path} (hfile : fs.isFile descriptor = true)
    (hclear : ¬ top.Below (descriptor.resolve fs.workingFolder)) :
    ((read descriptor : StateM FileSystem _).run gs).1
      = ((read descriptor : StateM FileSystem _).run fs).1 := by
  rw [run_read, run_read, h.readText_eq hlinks hfile hclear]

/-- Elsewhere there are the same descriptors. -/
theorem isDescriptor_iff {folder : Place} {name : Text} (hclear : ¬ top.Below (folder ++ [name]))
    (extension : Text) :
    IsDescriptor gs extension folder name ↔ IsDescriptor fs extension folder name := by
  have hsame : faceAt (folder ++ [name]) gs.tree ≠ none →
      gs.isFile (Path.ofPlace (folder ++ [name])) = fs.isFile (Path.ofPlace (folder ++ [name])) ∧
        (Path.ofPlace (folder ++ [name])).resolve fs.workingFolder = folder ++ [name] := by
    intro hthere
    have hnames := isName_of_faceAt gs.tidy hthere
    have hplace := Path.resolve_ofPlace hnames fs.workingFolder
    exact ⟨h.isFile_eq hlinks fs.home (fun hold => missing?_ofPlace hnames (hplace ▸ hold))
      (hplace.symm ▸ hclear), hplace⟩
  constructor
  · rintro ⟨hthere, hfile, hextension⟩
    obtain ⟨hfiles, hplace⟩ := hsame hthere
    rw [hfiles] at hfile
    obtain ⟨place, content, hspot, hget⟩ := isFile_iff.1 hfile
    obtain rfl : place = folder ++ [name] := (spot_place hlinks hspot).trans hplace
    exact ⟨faceAt_eq_file_iff.2 hget ▸ Option.some_ne_none _, hfile, hextension⟩
  · rintro ⟨hthere, hfile, hextension⟩
    have hnow := h.grown.there hthere
    exact ⟨hnow, (hsame hnow).1.trans hfile, hextension⟩

/-- **The search has the same answer**, if it does not start in the folder. -/
theorem run_locate_eq {start : Path} {place : Place}
    (hstart : fs.spot true start = .ok (.taken place))
    (hfolder : faceAt place fs.tree = some emptyFolder) (habove : ¬ top <+: place)
    {extension : Text} {project : Project}
    (hproject : ((locate start extension : StateM FileSystem _).run fs).1 = .ok project) :
    ((locate start extension : StateM FileSystem _).run gs).1 = .ok project := by
  have hfrom := start_of_run_locate fs.tidy hlinks hstart hfolder hproject
  have hfrom' : Start gs place := ⟨gs.tidy, h.grown.folder hfolder, hfrom.reachable⟩
  have hclear : ∀ folder, folder <+: place → ∀ name, ¬ top.Below (folder ++ [name]) :=
    fun folder hpre => Place.not_below_concat fun hinner => habove (hinner.trans hpre)
  have hsame : ∀ folder, folder <+: place → ∀ name,
      IsDescriptor gs extension folder name ↔ IsDescriptor fs extension folder name :=
    fun folder hpre name => isDescriptor_iff h hlinks (hclear folder hpre name) extension
  rw [← hproject]
  refine locate_congr hstart (spot_taken_grown h.grown h.workingFolder hstart) hfrom hfrom'
    (fun folder hpre name => ?_) fun folder hpre name hlone => ?_
  · simp only [IsLoneDescriptor, hsame folder hpre]
  · have hplace := Path.resolve_ofPlace (isName_of_faceAt fs.tidy hlone.1.1) fs.workingFolder
    exact h.readText_eq hlinks hlone.1.2.1 (hplace.symm ▸ hclear folder hpre name)

end Project

/-! ## The catalogue -/

/-- **The same documents are found**, if the input root is apart from the folder. -/
theorem Catalogue.found_eq {input : InputPattern} {conventions : Conventions} {extension : Text}
    {all : List Document}
    (hapart : top.Apart (input.root.resolve fs.workingFolder))
    (hfound : found fs input conventions extension = .ok all) :
    found gs input conventions extension = .ok all := by
  obtain ⟨place, entries, hspot, hget, rfl, hclash⟩ := found_eq_ok_iff_entries.1 hfound
  have hspot' := spot_taken_grown h.grown h.workingFolder hspot
  obtain ⟨entries', hget'⟩ := faceAt_eq_emptyFolder_iff.1
    (h.grown.folder (faceAt_eq_emptyFolder_iff.2 ⟨entries, hget⟩))
  have hentries := (tidy_of_get? fs.tidy hget).2
  have hentries' := (tidy_of_get? gs.tidy hget').2
  have hmem : ∀ names, names ∈ filesInEntries entries' ↔ names ∈ filesInEntries entries := by
    intro names
    have hclear : ¬ top.Below (place ++ names) := by
      rw [← spot_place hlinks hspot] at hapart
      exact fun hbelow => hapart.not_prefix (List.prefix_append place names) hbelow.1
    have hinside : ∀ {tree : Node} {inner : List (Text × Node)},
        get? place tree = some (.folder inner) →
        get? (place ++ names) tree = get? names (.folder inner) := fun hinner => by
      rw [get?_append, hinner, Option.bind_some]
    rw [mem_filesInEntries_iff hentries, mem_filesInEntries_iff hentries', ← hinside hget,
      ← hinside hget']
    exact exists_congr fun content => h.get?_eq_file_iff hclear content
  have hperm : (filesInEntries entries').Perm (filesInEntries entries) :=
    (List.perm_ext_iff_of_nodup (nodup_filesInEntries hentries')
      (nodup_filesInEntries hentries)).2 hmem
  have hsame := documents_of_perm input conventions (Path.ofPlace fs.workingFolder)
    (fun names => isName_of_mem_filesInEntries hentries) (nodup_filesInEntries hentries) hperm
  refine found_eq_ok_iff_entries.2 ⟨place, entries', hspot', hget', ?_, hclash⟩
  rw [h.workingFolder, hsame]

end

/-! ## The plan -/

namespace Conversion

/-- Settings that have been loaded from a file are in one. -/
theorem isFile_of_loadSettings {fs : FileSystem} {request : Request} {root path : Path}
    {settings : Settings} (hpath : request.settingsFile = some path)
    (hloaded : ((loadSettings request root : StateM FileSystem _).run fs).1 = .ok settings) :
    fs.isFile path = true := by
  simp only [loadSettings, hpath] at hloaded
  rw [Settings.run_loadFile] at hloaded
  cases hread : fs.readText path with
  | error fault =>
    rw [hread] at hloaded
    cases hloaded
  | ok text => exact isFile_of_readText hread

theorem isFile_of_findProject {fs : FileSystem} {request : Request} {root path : Path}
    {extension : Text} {project : Project} (hpath : request.descriptor = some path)
    (hproject : ((findProject request root extension : StateM FileSystem _).run fs).1
      = .ok project) : fs.isFile path = true := by
  simp only [findProject, hpath] at hproject
  rw [Project.run_read] at hproject
  cases hread : fs.readText path with
  | error fault =>
    rw [hread] at hproject
    cases hproject
  | ok text => exact isFile_of_readText hread

/-- **The plan is the same after files have been written below a folder**, if the input root is apart
from the folder, and a descriptor or a settings file that is asked for is not below it. -/
theorem plan_again {top : Place} {fs : ReadyDisk} {gs : TidyDisk} (h : FilledBelow top fs gs)
    (hlinks : fs.tree.LinkFree) {request : Request} {input : InputPattern}
    (hinput : InputPattern.ofText request.pattern = .ok input)
    (hapart : top.Apart (input.root.resolve fs.workingFolder))
    (hfiles : ∀ path, request.descriptor = some path ∨ request.settingsFile = some path →
      ¬ top.Below (path.resolve fs.workingFolder)) {made : Plan}
    (hplan : ((plan request : StateM FileSystem _).run fs).1 = .ok made) :
    ((plan request : StateM FileSystem _).run gs).1 = .ok made := by
  obtain ⟨input', hinput', hsettings, hproject, hfound⟩ := plan_eq_ok_iff.1 hplan
  obtain rfl : input = input' := Except.ok.inj (hinput.symm.trans hinput')
  obtain ⟨place, entries, hspot, hget, -⟩ := Catalogue.found_eq_ok_iff_entries.1 hfound
  have habove : ¬ top <+: place := by
    have hplace : place = input.root.resolve fs.workingFolder := spot_place hlinks hspot
    exact hplace ▸ hapart.not_above
  refine plan_eq_ok_iff.2 ⟨input, hinput, ?_, ?_, Catalogue.found_eq h hlinks hapart hfound⟩
  · rw [← hsettings]
    cases hfile : request.settingsFile with
    | some path =>
      simp only [loadSettings, hfile]
      exact Settings.run_loadFile_eq h hlinks (isFile_of_loadSettings hfile hsettings)
        (hfiles path (Or.inr hfile))
    | none =>
      simp only [loadSettings, hfile]
      exact Settings.run_load_eq h hlinks hspot (Place.not_below_concat habove _)
  · cases hfile : request.descriptor with
    | some path =>
      have hread := Project.run_read_eq h hlinks (isFile_of_findProject hfile hproject)
        (hfiles path (Or.inl hfile))
      simp only [findProject, hfile] at hproject ⊢
      rw [hread, hproject]
    | none =>
      simp only [findProject, hfile] at hproject ⊢
      exact Project.run_locate_eq h hlinks hspot
        (faceAt_eq_emptyFolder_iff.2 ⟨entries, hget⟩) habove hproject

end Conversion
end DocViews
