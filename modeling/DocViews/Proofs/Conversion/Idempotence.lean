import DocViews.Proofs.Catalogue.Outputs
import DocViews.Proofs.Conversion.Again
import DocViews.Proofs.Conversion.Replan
import DocViews.Proofs.Disk.Tidy

/-!
# Running again

A second run with the same request has the same report, and leaves the disk as it is
(`Conversion.run_again`).  The plan is the same, because the first run has written below the output
folder only (`plan_again`); the output folder is there (`faceAt_output`); and each document has the
result that it had, because it reads the same and its view is at a place of its own (`repeatable`).
The documents that failed fail again, although some of their folders may have been made by then.

This needs the output folder to be apart from the input root, and outputs without points.  A view
that goes up may be where a document is, and two such views may be at the same place; and why a path
that ends in a point is refused may depend on the folders that have been made (`makeViews_again`).
-/

set_option autoImplicit false

namespace DocViews

open Node FileSystem

/-! ## Outputs without points -/

/-- A path that has neither a point nor two points among its segments. -/
def Path.IsPointFree (path : Path) : Prop :=
  ∀ segment ∈ path.segments, segment ≠ ['.'] ∧ segment ≠ ['.', '.']

instance (path : Path) : Decidable path.IsPointFree :=
  inferInstanceAs (Decidable (∀ segment ∈ path.segments, _ ∧ _))

namespace Path.IsPointFree

variable {path : Path}

theorem isPlain (h : path.IsPointFree) (hrelative : path.isAbsolute = false) : path.IsPlain :=
  isPlain_iff.2 ⟨hrelative, fun hhead => (h _ (List.mem_of_head? hhead)).1 rfl,
    fun hmem => (h _ hmem).2 rfl⟩

/-- What is written with such a path at its end does not end in a point. -/
theorem not_endsInPoint (h : path.IsPointFree) (hname : path.names ≠ []) (folder : Path) :
    ¬ (folder.join path).EndsInPoint := by
  have hloud : path.segments.filter (· ≠ []) ≠ [] := by
    intro hnil
    refine hname ?_
    have hsilent : path.segments.filterMap component? = [] := by
      refine List.filterMap_eq_nil_iff.2 fun segment hsegment => ?_
      have hempty : segment = [] := by simpa using List.filter_eq_nil_iff.1 hnil segment hsegment
      rw [hempty]
      rfl
    rw [names_eq, hsilent, List.filterMap_nil]
  have hlast : (path.segments.filter (· ≠ [])).getLast? ≠ some ['.'] := fun hpoint =>
    (h _ (List.mem_of_mem_filter (List.mem_of_getLast? hpoint))).1 rfl
  rw [EndsInPoint]
  rcases folder.join_cases path with hjoin | ⟨up, hsegments, -, -⟩
  · rwa [hjoin]
  · rwa [hsegments, List.filter_append, List.getLast?_append_of_ne_nil _ hloud]

end Path.IsPointFree

namespace Conversion

variable {request : Request} {made : Plan} {fs : ReadyDisk} {next : FileSystem}

/-! ## The output folder -/

/-- An output folder that has been made is there.  The empty path is the working folder. -/
theorem faceAt_output (hlinks : fs.tree.LinkFree) {output : Path}
    (h : (Disk.makeFolders output : StateM FileSystem _).run fs = (.ok (), next)) :
    faceAt (output.resolve fs.workingFolder) next.tree = some emptyFolder := by
  have hlaid := lays_makeFolders output fs
  rw [h] at hlaid
  by_cases htext : output.text = []
  · rw [Path.resolve_of_empty htext]
    exact hlaid.grown.folder fs.home
  · obtain ⟨place, entries, hspot, hget⟩ :=
      isFolder_iff.1 (isFolder_of_makeFolders hlinks htext h)
    have hplace : place = output.resolve next.workingFolder :=
      spot_place (hlaid.grown.linkFree hlinks) hspot
    rw [← hlaid.workingFolder, ← hplace]
    exact faceAt_eq_emptyFolder_iff.2 ⟨entries, hget⟩

/-! ## The documents -/

/-- The place of a document that has been found is below the input root. -/
theorem resolve_place {input : InputPattern} {conventions : Conventions} {extension : Text}
    {all : List Document} (hfound : Catalogue.found fs input conventions extension = .ok all) {d : Document}
    (hd : d ∈ all) (base : Place) :
    input.root.resolve fs.workingFolder <+: d.place.resolve base := by
  obtain ⟨place, names, hspot, hnames, -, rfl⟩ :=
    Catalogue.exists_page_of_mem_found hfound hd
  have htext := Catalogue.text_pathOf_ne_nil (text_ne_nil_of_spot hspot) hnames
  rw [Document.describe, Path.resolve_absolute fs.isName_workingFolder htext,
    Catalogue.resolve_pathOf _ hnames]
  exact List.prefix_append _ _

/-- On the way to a document that has been found nothing is missing, nor will it be when the disk
has grown. -/
theorem missing?_place {written : Place → Prop} {gs : FileSystem} (hlinks : fs.tree.LinkFree)
    (hgrown : Grown written fs.tree gs.tree) (hfolder : gs.workingFolder = fs.workingFolder)
    {input : InputPattern} {conventions : Conventions} {extension : Text} {all : List Document}
    (hfound : Catalogue.found fs input conventions extension = .ok all) {d : Document}
    (hd : d ∈ all) : gs.missing? d.place = none := by
  obtain ⟨place, names, hspot, hnames, hpage, rfl⟩ :=
    Catalogue.exists_page_of_mem_found hfound hd
  have htext := Catalogue.text_pathOf_ne_nil (text_ne_nil_of_spot hspot) hnames
  obtain ⟨content, hfile⟩ := hpage.isFile
  obtain ⟨new, hnew⟩ := hgrown.file (faceAt_eq_file_iff.2 hfile)
  have hhome' : faceAt gs.workingFolder gs.tree = some emptyFolder :=
    hfolder ▸ hgrown.folder fs.home
  have hplace : ∀ name ∈ gs.workingFolder, Path.IsName name :=
    hfolder ▸ fs.isName_workingFolder
  rw [Document.describe, ← hfolder, missing?_absolute hplace hhome' htext]
  exact Catalogue.missing?_pathOf (hgrown.linkFree hlinks)
    (spot_taken_grown hgrown hfolder hspot) hnames (hnew ▸ Option.some_ne_none _)

/-! ## The views -/

/-- The view of a document is below the output folder by the names of its output. -/
theorem viewPlace_eq {settings : Settings} {d : Document}
    (h : (d.output settings.target.extension).IsPlain) (output : Path) (fs : FileSystem) :
    viewPlace settings output fs d
      = output.resolve fs.workingFolder ++ (d.output settings.target.extension).names := by
  rw [viewPlace, viewPath, Path.resolve_join, h.resolve_eq]

/-- Below an output folder that has been made, a plain path leads down. -/
theorem leadsDown_of_isPlain (hlinks : fs.tree.LinkFree) {output path : Path}
    (hmade : (Disk.makeFolders output : StateM FileSystem _).run fs = (.ok (), next))
    (hplain : path.IsPlain) : LeadsDown next output path := by
  have hdown : Component.parent ∉ path.components := fun hup => by
    obtain ⟨name, hname⟩ := hplain _ hup
    exact nomatch hname
  refine ⟨hdown, fun hup => ?_⟩
  by_cases htext : output.text = []
  · -- below the empty path the path is as it is, and does not go up
    rw [Path.join_of_empty htext hplain.isAbsolute] at hup
    exact absurd hup hdown
  · exact isFolder_of_makeFolders hlinks htext hmade

section

variable {settings : Settings} {input : InputPattern} {output : Path} {all : List Document}
  (hlinks : fs.tree.LinkFree)
  (hfound : Catalogue.found fs input settings.conventions settings.target.extension = .ok all)
  (hapart : Place.Apart (output.resolve fs.workingFolder) (input.root.resolve fs.workingFolder))
  (hpoints : ∀ d ∈ all, d.stem ≠ [] → (d.output settings.target.extension).IsPointFree)
  (hmade : (Disk.makeFolders output : StateM FileSystem _).run fs = (.ok (), next))

include hfound hpoints

/-- An output without points goes down. -/
theorem isPlain_output {d : Document} (hd : d ∈ all) (hstem : d.stem ≠ []) :
    (d.output settings.target.extension).IsPlain :=
  (hpoints d hd hstem).isPlain
    (Document.isAbsolute_output (Catalogue.isDescribed_of_mem_found hfound hd) _)

/-- Views without points are at different places, since no two documents clash. -/
theorem pairwise_viewPlace (fs : FileSystem) :
    all.Pairwise fun d e => d.stem ≠ [] → e.stem ≠ [] →
      viewPlace settings output fs d ≠ viewPlace settings output fs e := by
  have hkept := Document.firstClash?_eq_none_iff.1 (Catalogue.firstClash?_of_found hfound)
  rw [List.pairwise_filter] at hkept
  refine hkept.imp_of_mem fun {d e} hd he hde hdstem hestem hsame => ?_
  have hdplain := isPlain_output hfound hpoints hd hdstem
  have heplain := isPlain_output hfound hpoints he hestem
  rw [viewPlace_eq hdplain, viewPlace_eq heplain] at hsame
  refine (hde (by simpa using hdstem) (by simpa using hestem)).1 ?_
  rw [hdplain.components_eq, heplain.components_eq, List.append_cancel_left hsame]

include hlinks hapart hmade

/-- **The views of a catalogue can be made again**, once the output folder is there. -/
theorem repeatable : Repeatable settings output next all := by
  have hlaid := lays_makeFolders output fs
  rw [hmade] at hlaid
  have hworking : next.workingFolder = fs.workingFolder := hlaid.workingFolder
  have hlinks' : next.tree.LinkFree := hlaid.grown.linkFree hlinks
  have hhome' : faceAt next.workingFolder next.tree = some emptyFolder :=
    hworking ▸ hlaid.grown.folder fs.home
  exact {
    linkFree := hlinks'
    home := hhome'
    down := fun d hd hstem =>
      leadsDown_of_isPlain hlinks hmade (isPlain_output hfound hpoints hd hstem)
    point := fun d hd hstem =>
      (hpoints d hd hstem).not_endsInPoint (Document.names_output_ne_nil
        (Catalogue.isDescribed_of_mem_found hfound hd) _) output
    different := pairwise_viewPlace hfound hpoints next
    reads := by
      intro gs hgs hgrown d hd
      have hmissing := missing?_place hlinks hlaid.grown hworking hfound hd
      refine readText_of_grown hgrown hlinks' ?_ hgs (faceAt_startOf_ne_none hhome' _)
        (by simp [hmissing])
      -- a document is below the input root, and no view is
      rintro ⟨e, he, hstem, hview⟩
      have hroot := resolve_place hfound hd next.workingFolder
      rw [hview, viewPlace_eq (isPlain_output hfound hpoints he hstem), hworking] at hroot
      exact hapart.symm.not_prefix (List.prefix_append _ _) hroot }

/-- All that is written is below the output folder. -/
theorem filledBelow (rootNamespace : Text) :
    FilledBelow (output.resolve fs.workingFolder) fs
      ((makeViews settings rootNamespace output all : StateM FileSystem _).run next).2 := by
  have hlaid := lays_makeFolders output fs
  rw [hmade] at hlaid
  have hworking : next.workingFolder = fs.workingFolder := hlaid.workingFolder
  obtain ⟨hfolder, hgrown⟩ := grown_makeViews rootNamespace
    (repeatable hlinks hfound hapart hpoints hmade)
  refine ⟨hfolder.trans hworking, (hlaid.grown.mono fun _ => False.elim).trans
    (hgrown.mono ?_), hgrown.folder (faceAt_output hlinks hmade)⟩
  rintro q ⟨e, he, hstem, rfl⟩
  rw [viewPlace_eq (isPlain_output hfound hpoints he hstem), hworking]
  exact List.prefix_append _ _

end

/-! ## The whole run -/

/-- A run with a report has made its output folder, and then the views. -/
theorem run_of_plan {report : Report}
    (hplan : ((plan request : StateM FileSystem _).run fs).1 = .ok made)
    (h : ((run request : StateM FileSystem _).run fs).1 = .ok report) :
    ∃ next, (Disk.makeFolders request.output : StateM FileSystem _).run fs = (.ok (), next) ∧
      (run request : StateM FileSystem _).run fs
        = (.ok (reportOf made.project
            ((makeViews made.settings made.project.name request.output made.documents :
              StateM FileSystem _).run next).1),
          ((makeViews made.settings made.project.name request.output made.documents :
            StateM FileSystem _).run next).2) := by
  rw [run_run, hplan] at h ⊢
  simp only [execute, run_bind] at h ⊢
  generalize (Disk.makeFolders request.output : StateM FileSystem _).run fs = folders at h ⊢
  obtain ⟨answer, next⟩ := folders
  cases answer with
  | error fault => cases h
  | ok done => exact ⟨next, rfl, rfl⟩

/-- **A second run has the same report and changes nothing.**  The output folder and the input root
are apart, the descriptor and the settings file that the request names, if it does, are not below the
output folder, and no document with a name has an output with points. -/
theorem run_again {input : InputPattern} {report : Report} (hlinks : fs.tree.LinkFree)
    (hinput : InputPattern.ofText request.pattern = .ok input)
    (hapart : Place.Apart (request.output.resolve fs.workingFolder)
      (input.root.resolve fs.workingFolder))
    (hfiles : ∀ path, request.descriptor = some path ∨ request.settingsFile = some path →
      ¬ Place.Below (request.output.resolve fs.workingFolder) (path.resolve fs.workingFolder))
    (hplan : ((plan request : StateM FileSystem _).run fs).1 = .ok made)
    (hpoints : ∀ d ∈ made.documents, d.stem ≠ [] →
      (d.output made.settings.target.extension).IsPointFree)
    (h : ((run request : StateM FileSystem _).run fs).1 = .ok report) :
    (run request : StateM FileSystem _).run ((run request : StateM FileSystem _).run fs).2
      = (.ok report, ((run request : StateM FileSystem _).run fs).2) := by
  obtain ⟨input', hinput', -, -, hfound⟩ := plan_eq_ok_iff.1 hplan
  obtain rfl : input = input' := Except.ok.inj (hinput.symm.trans hinput')
  obtain ⟨next, hmade, hrun⟩ := run_of_plan hplan h
  have hrepeatable := repeatable hlinks hfound hapart hpoints hmade
  have hfilled := filledBelow hlinks hfound hapart hpoints hmade made.project.name
  have hagain := makeViews_again made.project.name hrepeatable
  obtain ⟨hfolder, hgrown⟩ := grown_makeViews made.project.name hrepeatable
  have htidy := isTidy_of_steps (stepwise_run request fs) fs.tidy
  rw [hrun] at h htidy ⊢
  obtain rfl := Except.ok.inj h
  generalize (makeViews made.settings made.project.name request.output made.documents :
    StateM FileSystem _).run next = views at hfilled hagain hfolder hgrown htidy ⊢
  obtain ⟨results, last⟩ := views
  have hplan' := plan_again (show FilledBelow _ fs (⟨last, htidy⟩ : TidyDisk) from hfilled) hlinks
    hinput hapart hfiles hplan
  have hfolders : (Disk.makeFolders request.output : StateM FileSystem _).run last
      = (.ok (), last) :=
    run_makeFolders_again (hgrown.linkFree hrepeatable.linkFree) fun htext =>
      isFolder_grown hgrown hfolder (isFolder_of_makeFolders hlinks htext hmade)
  rw [run_run, hplan']
  simp only [execute, run_bind, hfolders, hagain]
  rfl

/-- A document that fails, because the view of the document before it has made a folder where its own
view should be: it fails again. -/
theorem run_again_nested :
    let fs : ReadyDisk := {
      tree := .folder [
        ("App.csproj".toList, .file (.text "<RootNamespace>App</RootNamespace>".toList)),
        ("Docs".toList, .folder [
          ("Intro.g.cs".toList, .folder [("Foo.md".toList, Catalogue.page)]),
          ("Intro.md".toList, Catalogue.page)])]
      workingFolder := []
      tidy := by decide +kernel
      home := rfl }
    let request : Request := ⟨"Docs/*.md".toList, ⟨"Views".toList⟩, none, none⟩
    let made : Plan := ⟨{}, ⟨"App".toList, ⟨"/App.csproj".toList⟩⟩,
      [Catalogue.docsDocument "Intro.g.cs/Foo.md", Catalogue.docsDocument "Intro.md"]⟩
    let report : Report := {
      project := ⟨"App".toList, ⟨"/App.csproj".toList⟩⟩
      generated := [⟨⟨"Intro.g.cs/Foo.md".toList⟩, ⟨"Intro.g.cs/Foo.g.cs".toList⟩,
        "App.Apps.Intro_g_cs".toList, "FooApp".toList, 0, false⟩]
      failures := [⟨⟨"Intro.md".toList⟩, .disk .isAFolder⟩] }
    (fs.tree.LinkFree ∧
      InputPattern.ofText request.pattern = .ok Catalogue.docsInput ∧
      Place.Apart (request.output.resolve fs.workingFolder)
        (Catalogue.docsInput.root.resolve fs.workingFolder) ∧
      ((plan request : StateM FileSystem _).run fs).1 = .ok made ∧
      (∀ d ∈ made.documents, d.stem ≠ [] →
        (d.output made.settings.target.extension).IsPointFree) ∧
      ((run request : StateM FileSystem _).run fs).1 = .ok report) ∧
    (run request : StateM FileSystem _).run ((run request : StateM FileSystem _).run fs).2
      = (.ok report, ((run request : StateM FileSystem _).run fs).2) := by
  intro fs request made report
  have hlinks : fs.tree.LinkFree :=
    .cons (.file _) (.cons (.cons (.cons (.file _) .nil) (.cons (.file _) .nil)) .nil)
  have hapart : Place.Apart (request.output.resolve fs.workingFolder)
      (Catalogue.docsInput.root.resolve fs.workingFolder) := by decide +kernel
  have hfound : Catalogue.found fs Catalogue.docsInput {} "cs".toList = .ok made.documents :=
    Catalogue.found_eq_ok_iff.2 ⟨rfl, [["Intro.g.cs".toList, "Foo.md".toList],
      ["Intro.md".toList]], rfl,
      (Catalogue.documents_eq (by decide +kernel) (by decide +kernel)).symm, by decide +kernel⟩
  have hplan : ((plan request : StateM FileSystem _).run fs).1 = .ok made :=
    plan_eq_ok_iff.2 ⟨Catalogue.docsInput, rfl, by decide +kernel, by decide +kernel, hfound⟩
  have hpoints : ∀ d ∈ made.documents, d.stem ≠ [] →
      (d.output made.settings.target.extension).IsPointFree := by decide +kernel
  have hrun : ((run request : StateM FileSystem _).run fs).1 = .ok report := by
    rw [run_run, hplan]
    decide +kernel
  exact ⟨⟨hlinks, rfl, hapart, hplan, hpoints, hrun⟩,
    run_again hlinks rfl hapart (by simp [request]) hplan hpoints hrun⟩

end Conversion
end DocViews
