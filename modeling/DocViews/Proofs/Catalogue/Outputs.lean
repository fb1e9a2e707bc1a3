import DocViews.Proofs.Catalogue.Scan
import DocViews.Proofs.Document.Apart

/-!
# Where the views of a catalogue go

The names of folders are cut before they become the names of output folders, and the search for
clashes compares what outputs say, not where they lead.  So two things have to be asked of the
documents of a catalogue, and for each of them this is the exact condition:

* that a view is written below the output root (`Catalogue.output_confined_iff`);
* that two views are not in each other's way (`Catalogue.outputs_apart_iff`).  For straight documents
  and an extension without slashes, this is so unless a folder is called like a generated file.
-/

set_option autoImplicit false

namespace DocViews
namespace Catalogue

variable {fs next : FileSystem} {input : InputPattern} {conventions : Conventions}
  {extension : Text} {all : List Document}

theorem keptApart_of_found (h : found fs input conventions extension = .ok all) {d e : Document}
    (hd : d ∈ all) (he : e ∈ all) (hne : d ≠ e) (hdstem : d.stem ≠ []) (hestem : e.stem ≠ []) :
    Document.KeptApart extension d e :=
  Document.keptApart_of_firstClash?_eq_none (firstClash?_of_found h) hd he hne hdstem hestem

/-! ## Small disks -/

/-- Documents that are in order as they are found stay as they are. -/
theorem documents_eq {workingFolder : Path} {files : List Place} {described : List Document}
    (h : ((files.filter (isDocument input.files)).map fun names =>
      Document.describe conventions workingFolder input.root (pathOf input.root names))
        = described)
    (hsorted : described.Pairwise fun a b => (a.path.compare b.path).isLE = true) :
    documents input conventions workingFolder files = described := by
  rw [documents, h]
  exact List.mergeSort_of_pairwise hsorted

/-- A disk with nothing but a folder `Docs`. -/
def docsDisk (entries : List (Text × Node)) : FileSystem where
  tree := .folder [("Docs".toList, .folder entries)]
  workingFolder := []

def page : Node :=
  .file (.text "# Hi".toList)

/-- The input pattern `Docs/*.md`. -/
def docsInput : InputPattern where
  root := ⟨"Docs".toList⟩
  files := ⟨[.anyText, .char '.', .char 'm', .char 'd']⟩

/-- The document at a path below `Docs`, under the stock settings. -/
def docsDocument (path : String) : Document :=
  Document.describe {} (Path.ofPlace []) docsInput.root ⟨"Docs/".toList ++ path.toList⟩

theorem run_scan_docsDisk {entries : List (Text × Node)} {described : List Document}
    (h : (((Node.filesInEntries entries).filter (isDocument docsInput.files)).map fun names =>
      Document.describe {} (Path.ofPlace []) docsInput.root (pathOf docsInput.root names))
        = described)
    (hsorted : described.Pairwise fun a b => (a.path.compare b.path).isLE = true)
    (hclash : Document.firstClash? extension described = none) :
    (scan docsInput {} extension : StateM FileSystem _).run (docsDisk entries)
      = (.ok described, docsDisk entries) := by
  have hfiles : (docsDisk entries).filesBelow docsInput.root = .ok (Node.filesInEntries entries) :=
    rfl
  have hdocuments : documents docsInput {} (Path.ofPlace []) (Node.filesInEntries entries)
      = described := documents_eq h hsorted
  rw [run_scan, found_eq_ok_iff.2 ⟨rfl, _, hfiles, hdocuments.symm, hclash⟩]

/-! ## Views below the output root -/

/-- **A view stays below the output root exactly when its document is straight**: nothing that is
left of the name of a folder leads up or stays, and neither does the extension lead up. -/
theorem output_confined_iff
    (hscan : (scan input conventions extension : StateM FileSystem _).run fs = (.ok all, next))
    {d : Document} (hd : d ∈ all) : (d.output extension).Confined ↔ d.Straight extension :=
  Document.confined_output (isDescribed_of_mem_found (found_of_run_scan hscan) hd)

/-- A numbered folder with a usual name. -/
theorem output_confined_setup :
    (scan docsInput {} "cs".toList : StateM FileSystem _).run
        (docsDisk [("2_Setup".toList, .folder [("1_Intro.md".toList, page)])])
      = (.ok [docsDocument "2_Setup/1_Intro.md"],
        docsDisk [("2_Setup".toList, .folder [("1_Intro.md".toList, page)])]) ∧
    ((docsDocument "2_Setup/1_Intro.md").output "cs".toList).Confined :=
  have hscan := run_scan_docsDisk (by decide +kernel) (by decide +kernel) (by decide +kernel)
  ⟨hscan, (output_confined_iff hscan List.mem_cons_self).2 (by decide +kernel)⟩

/-- What is left of a folder `1_..` leads its document out of the output root, under the stock
settings. -/
theorem output_above_root :
    Settings.firstFault? {} = none ∧ InputPattern.ofText "Docs/*.md".toList = .ok docsInput ∧
    (scan docsInput ({} : Settings).conventions ({} : Settings).target.extension :
        StateM FileSystem _).run (docsDisk [("1_..".toList, .folder [("Intro.md".toList, page)])])
      = (.ok [docsDocument "1_../Intro.md"],
        docsDisk [("1_..".toList, .folder [("Intro.md".toList, page)])]) ∧
    (docsDocument "1_../Intro.md").stem ≠ [] ∧
    ¬ ((docsDocument "1_../Intro.md").output ({} : Settings).target.extension).Confined ∧
    ((Path.mk "Views".toList).join
        ((docsDocument "1_../Intro.md").output ({} : Settings).target.extension)).resolve []
      = ["Intro.g.cs".toList] := by
  refine ⟨by decide +kernel, rfl,
    run_scan_docsDisk (by decide +kernel) (by decide +kernel) (by decide +kernel),
    by decide +kernel, fun h => ?_, by decide +kernel⟩
  have hdescribed : (docsDocument "1_../Intro.md").IsDescribed {} :=
    Document.isDescribed_describe _ _ _ _
  exact absurd ((Document.confined_output hdescribed).1 h) (by decide +kernel)

/-! ## Views in each other's way -/

/-- **Two views of a catalogue are not in each other's way exactly when** their documents are both
straight or they lead to different places, and neither of them stands where the other one has a
folder.  Between straight documents only a folder that is called like a generated file is in the way,
as long as the extension has no slashes. -/
theorem outputs_apart_iff
    (hscan : (scan input conventions extension : StateM FileSystem _).run fs = (.ok all, next))
    {d e : Document} (hd : d ∈ all) (he : e ∈ all) (hne : d ≠ e) (hdstem : d.stem ≠ [])
    (hestem : e.stem ≠ []) (base : Place) (output : Path) :
    (Place.Apart ((output.join (d.output extension)).resolve base)
        ((output.join (e.output extension)).resolve base)
      ↔ ((d.Straight extension ∧ e.Straight extension) ∨
          d.landing extension (output.resolve base)
            ≠ e.landing extension (output.resolve base)) ∧
        ¬ Place.Below (d.landing extension (output.resolve base))
          (e.landing extension (output.resolve base)) ∧
        ¬ Place.Below (e.landing extension (output.resolve base))
          (d.landing extension (output.resolve base))) ∧
    (d.Straight extension → e.Straight extension → '/' ∉ extension →
      (Place.Apart ((output.join (d.output extension)).resolve base)
          ((output.join (e.output extension)).resolve base)
        ↔ ¬ d.outputFolders ++ [d.outputName extension] <+: e.outputFolders ∧
          ¬ e.outputFolders ++ [e.outputName extension] <+: d.outputFolders)) := by
  have hfound := found_of_run_scan hscan
  have hdd := isDescribed_of_mem_found hfound hd
  have hee := isDescribed_of_mem_found hfound he
  have hkept := keptApart_of_found hfound hd he hne hdstem hestem
  have hiff := Document.apart_resolve_iff hdd hee hkept base output
  refine ⟨hiff, fun hds hes hext => ?_⟩
  have hlanding := Document.landing_ne_of_straight hdd hee hds hes hkept (output.resolve base)
  rw [hiff, Document.below_landing_iff hdd hee hds hes hext hlanding,
    Document.below_landing_iff hee hdd hes hds hext hlanding.symm]
  exact and_iff_right (Or.inl ⟨hds, hes⟩)

/-- A document in a folder that is called like the generated file of another one: whichever view
comes first, the other one cannot be written.  The view of a third document is in nobody's way. -/
theorem outputs_apart_nested :
    let entries : List (Text × Node) := [("Intro.g.cs".toList, .folder [("Foo.md".toList, page)]),
      ("Intro.md".toList, page), ("Setup.md".toList, page)]
    let foo := docsDocument "Intro.g.cs/Foo.md"
    let start := docsDocument "Intro.md"
    let setup := docsDocument "Setup.md"
    let place (d : Document) := ((Path.mk "Views".toList).join (d.output "cs".toList)).resolve []
    ((scan docsInput {} "cs".toList : StateM FileSystem _).run (docsDisk entries)
        = (.ok [foo, start, setup], docsDisk entries) ∧
      (foo ≠ start ∧ start ≠ setup) ∧ (foo.stem ≠ [] ∧ start.stem ≠ [] ∧ setup.stem ≠ []) ∧
      start.Straight "cs".toList ∧ setup.Straight "cs".toList ∧ '/' ∉ "cs".toList) ∧
    ¬ Place.Apart (place foo) (place start) ∧ Place.Apart (place start) (place setup) := by
  intro entries foo start setup place
  have hscan : (scan docsInput {} "cs".toList : StateM FileSystem _).run (docsDisk entries)
      = (.ok [foo, start, setup], docsDisk entries) :=
    run_scan_docsDisk (by decide +kernel) (by decide +kernel) (by decide +kernel)
  have hne : foo ≠ start ∧ start ≠ setup := by decide +kernel
  have hstems : foo.stem ≠ [] ∧ start.stem ≠ [] ∧ setup.stem ≠ [] := by decide +kernel
  have hstraight : start.Straight "cs".toList ∧ setup.Straight "cs".toList ∧ '/' ∉ "cs".toList := by
    decide +kernel
  obtain ⟨hfoo, -⟩ := outputs_apart_iff hscan (show foo ∈ _ by simp) (show start ∈ _ by simp) hne.1
    hstems.1 hstems.2.1 [] ⟨"Views".toList⟩
  obtain ⟨-, hsetup⟩ := outputs_apart_iff hscan (show start ∈ _ by simp) (show setup ∈ _ by simp)
    hne.2 hstems.2.1 hstems.2.2 [] ⟨"Views".toList⟩
  refine ⟨⟨hscan, hne, hstems, hstraight⟩, fun h => ?_, ?_⟩
  · exact (hfoo.1 h).2.2 ⟨by decide +kernel, by decide +kernel⟩
  · exact (hsetup hstraight.1 hstraight.2.1 hstraight.2.2).2
      ⟨by decide +kernel, by decide +kernel⟩

/-- What is left of a folder `1_..` leads back to the folder above, where a document already has its
view: both documents are accepted, and the views are the same file. -/
theorem outputs_same_file :
    (scan docsInput {} "cs".toList : StateM FileSystem _).run
        (docsDisk [("A".toList, .folder [("1_..".toList, .folder [("Intro.md".toList, page)])]),
          ("Intro.md".toList, page)])
      = (.ok [docsDocument "A/1_../Intro.md", docsDocument "Intro.md"],
        docsDisk [("A".toList, .folder [("1_..".toList, .folder [("Intro.md".toList, page)])]),
          ("Intro.md".toList, page)]) ∧
    docsDocument "A/1_../Intro.md" ≠ docsDocument "Intro.md" ∧
    (docsDocument "A/1_../Intro.md").stem ≠ [] ∧ (docsDocument "Intro.md").stem ≠ [] ∧
    ∀ (base : Place) (output : Path),
      (output.join ((docsDocument "A/1_../Intro.md").output "cs".toList)).resolve base
        = (output.join ((docsDocument "Intro.md").output "cs".toList)).resolve base := by
  refine ⟨run_scan_docsDisk (by decide +kernel) (by decide +kernel) (by decide +kernel),
    by decide +kernel, by decide +kernel, by decide +kernel, fun base output => ?_⟩
  rw [Path.resolve_join, Path.resolve_join]
  generalize output.resolve base = folder
  have hleft : ((docsDocument "A/1_../Intro.md").output "cs".toList).components
      = [.name "A".toList, .parent, .name "Intro.g.cs".toList] := by decide +kernel
  have hright : ((docsDocument "Intro.md").output "cs".toList).components
      = [.name "Intro.g.cs".toList] := by decide +kernel
  simp only [Path.resolve, hleft, hright, List.foldl_cons, List.foldl_nil, Component.onward,
    List.dropLast_concat]

end Catalogue
end DocViews
