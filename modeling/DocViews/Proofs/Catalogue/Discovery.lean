import DocViews.Proofs.Catalogue.Outputs
import DocViews.Proofs.Document.Renumbering
import DocViews.Proofs.FileSystem.Disks
import DocViews.Proofs.Path.Order

/-!
# What a scan finds

The documents of a catalogue are the pages below the input root, all of them and each one once, in
the order of their paths (`Catalogue.documents_exact`).  A *page* is a file whose name fits the
pattern, where neither this name nor one of those that lead to it begins with a point
(`Catalogue.IsPage`).  The names start below the root, so the root itself may be hidden, and a chain
of names leads through folders only, so there is no page behind a link.

The order is by steps: what is in `a` comes before what is in `a-b`, although a hyphen is before a
slash.
-/

set_option autoImplicit false

namespace DocViews

open DocViews.Path Node

namespace Catalogue

variable {fs next : FileSystem} {input : InputPattern} {conventions : Conventions}
  {extension : Text} {all : List Document}

/-- A scan looks at what is in the folder that the input root leads to. -/
theorem found_eq_ok_iff_entries :
    found fs input conventions extension = .ok all ↔
      ∃ place entries, fs.spot true input.root = .ok (.taken place) ∧
        get? place fs.tree = some (.folder entries) ∧
        all = documents input conventions (Path.ofPlace fs.workingFolder)
          (filesInEntries entries) ∧
        Document.firstClash? extension all = none := by
  have hfiles : ∀ {place entries}, fs.spot true input.root = .ok (.taken place) →
      get? place fs.tree = some (.folder entries) →
      fs.filesBelow input.root = .ok (filesInEntries entries) := fun hspot hget => by
    rw [FileSystem.filesBelow, FileSystem.node_eq_ok_iff.2 ⟨_, hspot, hget⟩]
  rw [found_eq_ok_iff, FileSystem.isFolder_iff]
  constructor
  · rintro ⟨⟨place, entries, hspot, hget⟩, files, hread, hall, hclash⟩
    obtain rfl : filesInEntries entries = files :=
      Except.ok.inj ((hfiles hspot hget).symm.trans hread)
    exact ⟨place, entries, hspot, hget, hall, hclash⟩
  · rintro ⟨place, entries, hspot, hget, hall, hclash⟩
    exact ⟨⟨place, entries, hspot, hget⟩, _, hfiles hspot hget, hall, hclash⟩

/-! ## Pages -/

/-- Whether names lead from a place to a file that a run takes for a document. -/
structure IsPage (files : FilePattern) (tree : Node) (place : Place) (names : List Text) : Prop where
  isFile : ∃ content, get? (place ++ names) tree = some (.file content)
  shown : ∀ name ∈ names, name.head? ≠ some '.'
  fits : ∃ last, names.getLast? = some last ∧ files.fits last = true

theorem isDocument_iff {files : FilePattern} {names : List Text} :
    isDocument files names = true ↔ (∀ name ∈ names, name.head? ≠ some '.') ∧
      ∃ last, names.getLast? = some last ∧ files.fits last = true := by
  rw [isDocument, Bool.and_eq_true, Bool.not_eq_true', List.any_eq_false]
  refine and_congr (by simp [isHidden]) ?_
  cases names.getLast? <;> simp

/-- The pages below a tidy folder. -/
theorem mem_pages_iff {place : Place} {entries : List (Text × Node)}
    (htidy : entriesTidy entries = true) (hget : get? place fs.tree = some (.folder entries))
    {files : FilePattern} {names : List Text} :
    names ∈ (filesInEntries entries).filter (isDocument files)
      ↔ IsPage files fs.tree place names := by
  rw [List.mem_filter, mem_filesInEntries_iff htidy, isDocument_iff]
  have hinside : get? (place ++ names) fs.tree = get? names (.folder entries) := by
    rw [get?_append, hget, Option.bind_some]
  constructor
  · rintro ⟨hfile, hshown, hfits⟩
    exact ⟨hinside ▸ hfile, hshown, hfits⟩
  · rintro ⟨hfile, hshown, hfits⟩
    exact ⟨hinside ▸ hfile, hshown, hfits⟩

/-! ## Their documents -/

/-- The document at the end of a chain of names has these names for its path. -/
theorem path_describe_pathOf (workingFolder root : Path) {names : List Text}
    (h : ∀ name ∈ names, IsName name) :
    (Document.describe conventions workingFolder root (pathOf root names)).path
      = ofComponents (names.map .name) := by
  rw [Document.describe, below?_pathOf root h, Option.getD_some]

/-- The documents among some files are the pages among them, in another order. -/
theorem perm_documents (input : InputPattern) (conventions : Conventions) (workingFolder : Path)
    {files : List (List Text)}
    (hnames : ∀ names ∈ files, ∀ name ∈ names, IsName name) :
    ((documents input conventions workingFolder files).map Document.path).Perm
      ((files.filter (isDocument input.files)).map fun names =>
        ofComponents (names.map .name)) := by
  have hpaths : ((files.filter (isDocument input.files)).map fun names =>
      Document.describe conventions workingFolder input.root (pathOf input.root names)).map
        Document.path
      = (files.filter (isDocument input.files)).map fun names => ofComponents (names.map .name) := by
    rw [List.map_map]
    exact List.map_congr_left fun names hpage =>
      path_describe_pathOf workingFolder input.root (hnames names (List.mem_of_mem_filter hpage))
  rw [← hpaths]
  exact (List.mergeSort_perm _ _).map Document.path

/-- Chains of names are told apart by the paths that are written from them. -/
theorem nodup_components {files : List (List Text)}
    (hnames : ∀ names ∈ files, ∀ name ∈ names, IsName name) (hnodup : files.Nodup) :
    (files.map fun names => (ofComponents (names.map .name)).components).Nodup := by
  have hcomponents : (files.map fun names => (ofComponents (names.map .name)).components)
      = files.map (·.map Component.name) :=
    List.map_congr_left fun names hmem => components_ofComponents_names (hnames names hmem)
  rw [hcomponents]
  exact hnodup.map (List.map_injective_iff.2 fun _ _ => Component.name.inj)

/-- The documents among different files are in one order only. -/
theorem pairwise_documents (input : InputPattern) (conventions : Conventions) (workingFolder : Path)
    {files : List (List Text)}
    (hnames : ∀ names ∈ files, ∀ name ∈ names, IsName name) (hnodup : files.Nodup) :
    (documents input conventions workingFolder files).Pairwise
      fun d e => d.path.compare e.path = .lt := by
  have hsorted : (documents input conventions workingFolder files).Pairwise
      fun d e => (d.path.compare e.path).isLE = true := by
    refine List.pairwise_mergeSort (fun a b c => Std.TransCmp.isLE_trans) (fun a b => ?_) _
    have hswap : a.path.compare b.path = (b.path.compare a.path).swap := Std.OrientedCmp.eq_swap
    rw [hswap]
    cases b.path.compare a.path <;> rfl
  have happart : (documents input conventions workingFolder files).Pairwise
      fun d e => d.path.components ≠ e.path.components := by
    have hpages := nodup_components
      (fun names hpage => hnames names (List.mem_of_mem_filter hpage))
      (hnodup.filter (isDocument input.files))
    have hperm := (perm_documents input conventions workingFolder hnames).map Path.components
    rw [List.map_map, List.map_map] at hperm
    exact List.pairwise_map.1 (hperm.nodup_iff.2 hpages)
  exact hsorted.imp₂ (fun d e hle hne => compare_eq_lt_of_isLE hle hne) happart

/-- A document that has been found is described from a page. -/
theorem exists_page_of_mem_found {fs : TidyDisk}
    (h : found fs input conventions extension = .ok all) {d : Document} (hd : d ∈ all) :
    ∃ place names, fs.spot true input.root = .ok (.taken place) ∧
      (∀ name ∈ names, IsName name) ∧ IsPage input.files fs.tree place names ∧
      d = Document.describe conventions (Path.ofPlace fs.workingFolder) input.root
        (pathOf input.root names) := by
  obtain ⟨place, entries, hspot, hget, rfl, -⟩ := found_eq_ok_iff_entries.1 h
  have hentries : entriesTidy entries = true := (tidy_of_get? fs.tidy hget).2
  obtain ⟨names, hpage, rfl⟩ := List.mem_map.1 (List.mem_mergeSort.1 hd)
  exact ⟨place, names, hspot, isName_of_mem_filesInEntries hentries (List.mem_of_mem_filter hpage),
    (mem_pages_iff hentries hget).1 hpage, rfl⟩

/-- The order in which files are found does not matter. -/
theorem documents_of_perm (input : InputPattern) (conventions : Conventions) (workingFolder : Path)
    {files files' : List (List Text)}
    (hnames : ∀ names ∈ files, ∀ name ∈ names, IsName name) (hnodup : files.Nodup)
    (hperm : files'.Perm files) :
    documents input conventions workingFolder files'
      = documents input conventions workingFolder files := by
  have hall : (documents input conventions workingFolder files').Perm
      (documents input conventions workingFolder files) :=
    (List.mergeSort_perm _ _).trans
      (((hperm.filter _).map _).trans (List.mergeSort_perm _ _).symm)
  refine hall.eq_of_pairwise (fun d e _ _ hde hed => ?_)
    (pairwise_documents input conventions workingFolder
      (fun names hmem => hnames names (hperm.mem_iff.1 hmem)) (hperm.nodup_iff.2 hnodup))
    (pairwise_documents input conventions workingFolder hnames hnodup)
  exact absurd (Std.TransCmp.lt_trans hde hed) (by simp [Std.ReflCmp.compare_self])

/-- **A scan finds the pages below the input root**: the paths of its documents are those of the
pages, no other ones, and each one once, in strictly increasing order. -/
theorem documents_exact {fs : TidyDisk}
    (hscan : (scan input conventions extension : StateM FileSystem _).run fs = (.ok all, next)) :
    ∃ place, fs.spot true input.root = .ok (.taken place) ∧
      (∀ path, path ∈ all.map Document.path ↔
        ∃ names, IsPage input.files fs.tree place names ∧
          path = ofComponents (names.map .name)) ∧
      (all.map Document.path).Nodup ∧
      all.Pairwise fun d e => d.path.compare e.path = .lt := by
  obtain ⟨hfolder, files, hfiles, rfl, -⟩ := found_eq_ok_iff.1 (found_of_run_scan hscan)
  obtain ⟨place, entries, hspot, hget⟩ := FileSystem.isFolder_iff.1 hfolder
  obtain rfl : filesInEntries entries = files := by
    rw [FileSystem.filesBelow, FileSystem.node_eq_ok_iff.2 ⟨place, hspot, hget⟩] at hfiles
    exact Except.ok.inj hfiles
  have hentries : entriesTidy entries = true := (tidy_of_get? fs.tidy hget).2
  have hnames : ∀ names ∈ filesInEntries entries, ∀ name ∈ names, IsName name :=
    fun names => isName_of_mem_filesInEntries hentries
  have hordered := pairwise_documents input conventions (Path.ofPlace fs.workingFolder) hnames
    (nodup_filesInEntries hentries)
  refine ⟨place, hspot, fun path => ?_, ?_, hordered⟩
  · rw [(perm_documents input conventions _ hnames).mem_iff, List.mem_map]
    simp only [mem_pages_iff hentries hget, eq_comm]
  · refine List.pairwise_map.2 (hordered.imp fun {d e} hlt heq => ?_)
    have hsame : d.path.compare e.path = .eq := by
      rw [heq]
      exact Std.ReflCmp.compare_self
    exact absurd (hlt.symm.trans hsame) (by decide)

/-- A hidden root.  Below it there are hidden files and folders, links, and a file of another kind,
and the two folders with pages are not in the order of their characters. -/
theorem documents_exact_hidden_root :
    let fs : TidyDisk := {
      tree := .folder [(".docs".toList, .folder [
        (".git".toList, .folder [("Notes.md".toList, page)]),
        ("a".toList, .folder [(".Draft.md".toList, page), ("Intro.md".toList, page)]),
        ("a-b".toList, .folder [("Setup.md".toList, page), ("Setup.txt".toList, page)]),
        ("Again.md".toList, .link ⟨"a/Intro.md".toList⟩),
        ("again".toList, .link ⟨"a".toList⟩)])]
      workingFolder := []
      tidy := by decide +kernel }
    let input : InputPattern := { root := ⟨".docs".toList⟩, files := docsInput.files }
    let document (path : String) : Document :=
      Document.describe {} (Path.ofPlace []) input.root ⟨".docs/".toList ++ path.toList⟩
    let all := [document "a/Intro.md", document "a-b/Setup.md"]
    (InputPattern.ofText ".docs/*.md".toList = .ok input ∧
      (scan input {} "cs".toList : StateM FileSystem _).run fs = (.ok all, ↑fs)) ∧
    ∃ place, fs.spot true input.root = .ok (.taken place) ∧
      (∀ path, path ∈ all.map Document.path ↔
        ∃ names, IsPage input.files fs.tree place names ∧
          path = ofComponents (names.map .name)) ∧
      (all.map Document.path).Nodup ∧
      all.Pairwise fun d e => d.path.compare e.path = .lt := by
  intro fs input document all
  have hfiles : fs.filesBelow input.root = .ok [[".git".toList, "Notes.md".toList],
      ["a".toList, ".Draft.md".toList], ["a".toList, "Intro.md".toList],
      ["a-b".toList, "Setup.md".toList], ["a-b".toList, "Setup.txt".toList]] := rfl
  have hfound : found fs input {} "cs".toList = .ok all :=
    found_eq_ok_iff.2 ⟨rfl, _, hfiles,
      (documents_eq (by decide +kernel) (by decide +kernel)).symm, by decide +kernel⟩
  have hscan : (scan input {} "cs".toList : StateM FileSystem _).run fs = (.ok all, ↑fs) := by
    rw [run_scan, hfound]
  exact ⟨⟨rfl, hscan⟩, documents_exact hscan⟩

end Catalogue
end DocViews
