import DocViews.CommandLine
import DocViews.Proofs.Catalogue.Discovery
import DocViews.Proofs.Conversion.Failure
import DocViews.Proofs.Conversion.Task
import DocViews.Proofs.Report.Tally

/-!
# The account of a run

A run that ends with a report has tried every document of the catalogue once, in order, and each of
them is in one of the two lists of the report (`Conversion.report_accounts`).  One step writes the
file that it reports, or no file at all (`makeView_cases`); a run is such steps one after another
(`makeViews_filled`), and what one of them has written stays there.

Nothing is asked of the outputs here.  Two documents that write the same file both have it in the
report; and a document that fails leaves every file what it is, wherever its output leads to.
-/

set_option autoImplicit false

namespace DocViews
namespace Conversion

open Node (get?)
open FileSystem

variable (settings : Settings) (rootNamespace : Text) (output : Path)

/-! ## One document -/

/-- Writing below folders writes its file, or no file. -/
theorem filled_writeBelow (path : Path) (text : Text) (fs : FileSystem) :
    match (writeBelow path text : StateM FileSystem _).run fs with
    | (.ok (), next) => Filled [path] fs next
    | (.error _, next) => Filled [] fs next := by
  have hfolders := (lays_makeFolders (Path.ofComponents path.folderComponents) fs).filled
  rw [run_writeBelow]
  generalize (Disk.makeFolders (Path.ofComponents path.folderComponents) :
    StateM FileSystem _).run fs = folders at hfolders ⊢
  obtain ⟨answer, next⟩ := folders
  cases answer with
  | error fault => exact hfolders
  | ok done =>
    simp only [change]
    cases hwrite : next.write path (.text text) with
    | error fault => exact hfolders
    | ok last => exact hfolders.trans (filled_write hwrite)

theorem readText_writeBelow {path : Path} {text : Text} {fs : FileSystem}
    (h : ((writeBelow path text : StateM FileSystem _).run fs).1 = .ok ()) :
    ((writeBelow path text : StateM FileSystem _).run fs).2.readText path = .ok text := by
  rw [run_writeBelow] at h ⊢
  generalize (Disk.makeFolders (Path.ofComponents path.folderComponents) :
    StateM FileSystem _).run fs = folders at h ⊢
  obtain ⟨answer, next⟩ := folders
  cases answer with
  | error fault => exact absurd h (by simp)
  | ok done =>
    simp only [change] at h ⊢
    cases hwrite : next.write path (.text text) with
    | error fault => rw [hwrite] at h; exact absurd h (by simp)
    | ok last => exact readText_write hwrite

/-- **Making a view fails and writes no file, or it writes the file that it reports.** -/
theorem makeView_cases (d : Document) (fs : FileSystem) :
    (∃ e next, (makeView settings rootNamespace output d : StateM FileSystem _).run fs
        = (.error e, next) ∧ Filled [] fs next) ∨
      ∃ file next, (makeView settings rootNamespace output d : StateM FileSystem _).run fs
        = (.ok file, next) ∧ file.source = d.path ∧
        file.output = d.output settings.target.extension ∧
        Filled [output.join file.output] fs next := by
  by_cases hstem : d.stem = []
  · exact Or.inl ⟨_, _, run_makeView_nameless settings rootNamespace output hstem fs, .refl fs⟩
  · rw [run_makeView settings rootNamespace output hstem]
    cases fs.readText d.place with
    | error fault => exact Or.inl ⟨_, _, rfl, .refl fs⟩
    | ok text =>
      simp only
      cases hview : View.ofText settings rootNamespace d text with
      | error e => exact Or.inl ⟨_, _, rfl, .refl fs⟩
      | ok view =>
        have houtput := View.output_of_ofText hview
        have hfilled := filled_writeBelow (viewPath settings output d) view.text fs
        simp only
        generalize (writeBelow (viewPath settings output d) view.text :
          StateM FileSystem _).run fs = written at hfilled ⊢
        obtain ⟨answer, next⟩ := written
        cases answer with
        | error fault => exact Or.inl ⟨_, _, rfl, hfilled⟩
        | ok done =>
          rw [viewPath, ← houtput] at hfilled
          exact Or.inr ⟨_, _, rfl, View.source_of_ofText hview, houtput, hfilled⟩

/-- A document with a view has been read, and writing the view of its text is all that was done. -/
theorem run_makeView_of_ok {d : Document} {fs : FileSystem} {file : GeneratedFile}
    (h : ((makeView settings rootNamespace output d : StateM FileSystem _).run fs).1 = .ok file) :
    ∃ text view, fs.readText d.place = .ok text ∧
      View.ofText settings rootNamespace d text = .ok view ∧ view.file = file ∧
      (writeBelow (output.join file.output) view.text : StateM FileSystem _).run fs
        = (.ok (), ((makeView settings rootNamespace output d : StateM FileSystem _).run fs).2) := by
  by_cases hstem : d.stem = []
  · rw [run_makeView_nameless settings rootNamespace output hstem] at h
    exact absurd h (by simp)
  · rw [run_makeView settings rootNamespace output hstem] at h ⊢
    cases hread : fs.readText d.place with
    | error fault => rw [hread] at h; exact absurd h (by simp)
    | ok text =>
      rw [hread] at h
      simp only at h ⊢
      cases hview : View.ofText settings rootNamespace d text with
      | error e => rw [hview] at h; exact absurd h (by simp)
      | ok view =>
        rw [hview] at h
        have houtput := View.output_of_ofText hview
        simp only at h ⊢
        cases hwritten : (writeBelow (viewPath settings output d) view.text :
          StateM FileSystem _).run fs with
        | mk answer next =>
          rw [hwritten] at h
          cases answer with
          | error fault => exact absurd h (by simp)
          | ok done =>
            obtain rfl : view.file = file := Except.ok.inj h
            refine ⟨text, view, rfl, hview, rfl, ?_⟩
            rw [houtput]
            exact hwritten

/-- A document with a view has been read, and the view of its text has been written. -/
theorem exists_view_of_makeView {d : Document} {fs : FileSystem} {file : GeneratedFile}
    (h : ((makeView settings rootNamespace output d : StateM FileSystem _).run fs).1 = .ok file) :
    ∃ text view, fs.readText d.place = .ok text ∧
      View.ofText settings rootNamespace d text = .ok view ∧ view.file = file ∧
      ((makeView settings rootNamespace output d : StateM FileSystem _).run fs).2.readText
        (output.join file.output) = .ok view.text := by
  obtain ⟨text, view, hread, hview, hfile, hwritten⟩ :=
    run_makeView_of_ok settings rootNamespace output h
  have hreads := @readText_writeBelow (output.join file.output) view.text fs
  rw [hwritten] at hreads
  exact ⟨text, view, hread, hview, hfile, hreads rfl⟩

/-- The paths that have been written when a document is done. -/
def writtenBy (output : Path) : Except DocumentError GeneratedFile → List Path
  | .ok file => [output.join file.output]
  | .error _ => []

theorem filled_makeView (d : Document) (fs : FileSystem) :
    Filled (writtenBy output
        ((makeView settings rootNamespace output d : StateM FileSystem _).run fs).1)
      fs ((makeView settings rootNamespace output d : StateM FileSystem _).run fs).2 := by
  rcases makeView_cases settings rootNamespace output d fs with
    ⟨e, next, hrun, hfilled⟩ | ⟨file, next, hrun, -, -, hfilled⟩
  · rw [hrun]
    exact hfilled
  · rw [hrun]
    exact hfilled

/-- The result of a document with a view tells where both are. -/
theorem file_of_makeView {d : Document} {fs : FileSystem} {file : GeneratedFile}
    (h : ((makeView settings rootNamespace output d : StateM FileSystem _).run fs).1 = .ok file) :
    file.source = d.path ∧ file.output = d.output settings.target.extension := by
  rcases makeView_cases settings rootNamespace output d fs with
    ⟨e, next, hrun, -⟩ | ⟨made, next, hrun, hsource, houtput, -⟩
  · rw [hrun] at h
    exact absurd h (by simp)
  · rw [hrun] at h
    obtain rfl : made = file := Except.ok.inj h
    exact ⟨hsource, houtput⟩

/-! ## All documents -/

theorem run_makeViews_cons (d : Document) (rest : List Document) (fs : FileSystem) :
    (makeViews settings rootNamespace output (d :: rest) : StateM FileSystem _).run fs
      = ((d, ((makeView settings rootNamespace output d : StateM FileSystem _).run fs).1) ::
          ((makeViews settings rootNamespace output rest : StateM FileSystem _).run
            ((makeView settings rootNamespace output d : StateM FileSystem _).run fs).2).1,
        ((makeViews settings rootNamespace output rest : StateM FileSystem _).run
          ((makeView settings rootNamespace output d : StateM FileSystem _).run fs).2).2) :=
  rfl

theorem run_makeViews_append (early late : List Document) (fs : FileSystem) :
    (makeViews settings rootNamespace output (early ++ late) : StateM FileSystem _).run fs
      = (((makeViews settings rootNamespace output early : StateM FileSystem _).run fs).1 ++
          ((makeViews settings rootNamespace output late : StateM FileSystem _).run
            ((makeViews settings rootNamespace output early : StateM FileSystem _).run fs).2).1,
        ((makeViews settings rootNamespace output late : StateM FileSystem _).run
          ((makeViews settings rootNamespace output early : StateM FileSystem _).run fs).2).2) := by
  induction early generalizing fs with
  | nil => rfl
  | cons d rest ih =>
    rw [List.cons_append, run_makeViews_cons, run_makeViews_cons, ih]
    rfl

/-- Each document has its result. -/
theorem map_fst_makeViews (documents : List Document) (fs : FileSystem) :
    ((makeViews settings rootNamespace output documents : StateM FileSystem _).run fs).1.map
      Prod.fst = documents := by
  induction documents generalizing fs with
  | nil => rfl
  | cons d rest ih =>
    rw [run_makeViews_cons, List.map_cons, ih]

/-- Each result is that of making a view, on the disk that the documents before have left. -/
theorem exists_makeView_of_mem_makeViews {documents : List Document} {fs : FileSystem}
    {d : Document} {answer : Except DocumentError GeneratedFile}
    (h : (d, answer) ∈
      ((makeViews settings rootNamespace output documents : StateM FileSystem _).run fs).1) :
    d ∈ documents ∧ ∃ before : FileSystem,
      ((makeView settings rootNamespace output d : StateM FileSystem _).run before).1 = answer := by
  induction documents generalizing fs with
  | nil => exact absurd h List.not_mem_nil
  | cons first rest ih =>
    rw [run_makeViews_cons] at h
    rcases List.mem_cons.1 h with heq | hmem
    · obtain ⟨rfl, hanswer⟩ := Prod.mk.inj heq
      exact ⟨List.mem_cons_self, fs, hanswer.symm⟩
    · obtain ⟨hd, hmade⟩ := ih hmem
      exact ⟨List.mem_cons_of_mem _ hd, hmade⟩

/-- The results tell which documents they are from. -/
theorem file_of_mem_makeViews {documents : List Document} {fs : FileSystem} {d : Document}
    {file : GeneratedFile}
    (h : (d, .ok file) ∈
      ((makeViews settings rootNamespace output documents : StateM FileSystem _).run fs).1) :
    file.source = d.path ∧ file.output = d.output settings.target.extension := by
  obtain ⟨-, before, hmade⟩ := exists_makeView_of_mem_makeViews settings rootNamespace output h
  exact file_of_makeView settings rootNamespace output hmade

/-- **A run writes the files that it reports, and no others.**  The induction is on the documents;
what the first one has written stays there while the others are done. -/
theorem makeViews_filled (documents : List Document) (fs : FileSystem) :
    let made := (makeViews settings rootNamespace output documents : StateM FileSystem _).run fs
    Filled (made.1.flatMap fun result => writtenBy output result.2) fs made.2 := by
  induction documents generalizing fs with
  | nil => exact .refl fs
  | cons d rest ih =>
    intro made
    have hmade : made = _ := run_makeViews_cons settings rootNamespace output d rest fs
    rw [hmade]
    exact (filled_makeView settings rootNamespace output d fs).trans (ih _)

theorem flatMap_writtenBy (project : Project)
    (results : List (Document × Except DocumentError GeneratedFile)) :
    results.flatMap (fun result => writtenBy output result.2)
      = (reportOf project results).generated.map fun file => output.join file.output := by
  induction results with
  | nil => rfl
  | cons result rest ih =>
    obtain ⟨d, answer⟩ := result
    rw [List.flatMap_cons, ih]
    cases answer <;> rfl

/-! ## The whole run -/

/-- The results of some documents of a plan and the disk behind them, if the output folder and their
views are made one after another. -/
def viewsOf (request : Request) (made : Plan) (fs : FileSystem) (documents : List Document) :
    List (Document × Except DocumentError GeneratedFile) × FileSystem :=
  (makeViews made.settings made.project.name request.output documents : StateM FileSystem _).run
    ((Disk.makeFolders request.output : StateM FileSystem _).run fs).2

/-- What a report says of a run and of the disk that it leaves. -/
structure Accounts (request : Request) (made : Plan) (fs next : FileSystem) (report : Report) :
    Prop where
  /-- The documents are what was generated and what failed, merged in their order. -/
  merged : Interleaving (report.generated.map GeneratedFile.source)
    (report.failures.map Failure.source) (made.documents.map Document.path)
  /-- No document occurs twice. -/
  once : (made.documents.map Document.path).Nodup
  total : report.total = made.documents.length
  /-- The numbers in the summary are the lengths of the lists. -/
  summary : Digits.numbersIn report.summary
    = if report.failures = [] then [report.generated.length]
      else [report.generated.length, made.documents.length, report.failures.length]
  /-- What was generated is there, at the output of its document. -/
  there : ∀ file ∈ report.generated, next.isFile (request.output.join file.output) = true ∧
    ∃ d ∈ made.documents, file.source = d.path ∧
      file.output = d.output made.settings.target.extension
  /-- Where nothing was generated, no file is new, and no file holds anything else. -/
  kept : ∀ place, (∀ file ∈ report.generated,
      next.spot true (request.output.join file.output) ≠ .ok (.taken place)) →
    ∀ content, get? place next.tree = some (.file content)
      ↔ get? place fs.tree = some (.file content)
  /-- The disk after a run is the disk behind its last document. -/
  last : next = (viewsOf request made fs made.documents).2
  /-- When a document that fails has its turn, all files stay what they are. -/
  harmless : ∀ early d late, made.documents = early ++ d :: late →
    d.path ∈ report.failures.map Failure.source → ∀ place content,
      get? place (viewsOf request made fs (early ++ [d])).2.tree = some (.file content)
        ↔ get? place (viewsOf request made fs early).2.tree = some (.file content)
  succeeded : report.succeeded = true ↔ report.failures = []
  code : ∀ arguments, CommandLine.read false arguments = .ok (.convert request) →
    (((CommandLine.run arguments : StateM FileSystem _).run fs).1.code = 0
      ↔ report.failures = [])

section

variable {request : Request} {made : Plan} {fs : FileSystem} {report : Report}

/-- A run with a report has made its plan, its output folder, and the views. -/
theorem exists_plan_of_run (h : ((run request : StateM FileSystem _).run fs).1 = .ok report) :
    ∃ made, ((plan request : StateM FileSystem _).run fs).1 = .ok made ∧
      report = reportOf made.project (viewsOf request made fs made.documents).1 ∧
      ((run request : StateM FileSystem _).run fs).2
        = (viewsOf request made fs made.documents).2 := by
  rw [run_run] at h ⊢
  cases hplan : ((plan request : StateM FileSystem _).run fs).1 with
  | error e =>
    rw [hplan] at h
    exact absurd h (by simp)
  | ok made =>
    rw [hplan] at h
    simp only [execute, run_bind] at h ⊢
    cases hfolders : ((Disk.makeFolders request.output : StateM FileSystem _).run fs).1 with
    | error fault =>
      rw [hfolders] at h
      exact absurd h (by simp)
    | ok done =>
      rw [hfolders] at h
      exact ⟨made, rfl, (Except.ok.inj h).symm, rfl⟩

theorem mem_viewsOf {documents : List Document} {d : Document} {file : GeneratedFile}
    (h : (d, .ok file) ∈ (viewsOf request made fs documents).1) :
    file.source = d.path ∧ file.output = d.output made.settings.target.extension :=
  file_of_mem_makeViews _ _ _ h

section

variable (request made fs)

theorem map_fst_viewsOf (documents : List Document) :
    (viewsOf request made fs documents).1.map Prod.fst = documents :=
  map_fst_makeViews _ _ _ _ _

/-- The files of a report are there, and nothing else has been written. -/
theorem filled_viewsOf (documents : List Document) :
    Filled ((reportOf made.project (viewsOf request made fs documents).1).generated.map
        fun file => request.output.join file.output)
      fs (viewsOf request made fs documents).2 := by
  rw [← flatMap_writtenBy]
  exact (lays_makeFolders request.output fs).filled.trans (makeViews_filled _ _ _ _ _)

theorem interleaving_viewsOf (documents : List Document) :
    Interleaving
      ((reportOf made.project (viewsOf request made fs documents).1).generated.map
        GeneratedFile.source)
      ((reportOf made.project (viewsOf request made fs documents).1).failures.map Failure.source)
      (documents.map Document.path) := by
  have hmerged := interleaving_reportOf made.project
    fun d file (hmem : (d, .ok file) ∈ (viewsOf request made fs documents).1) =>
      (mem_viewsOf hmem).1
  have hpaths : (viewsOf request made fs documents).1.map (fun result => result.1.path)
      = documents.map Document.path := by
    have hfirst := congrArg (List.map Document.path) (map_fst_viewsOf request made fs documents)
    rwa [List.map_map] at hfirst
  rwa [hpaths] at hmerged

end

/-- **A document that fails writes nothing.**  Its turn is between the documents before it and those
behind it; if it had written its view, it would be in the other list. -/
theorem files_of_failure {documents early late : List Document} {d : Document}
    (honce : (documents.map Document.path).Nodup) (hsplit : documents = early ++ d :: late)
    (hfailed : d.path ∈ (reportOf made.project
      (viewsOf request made fs documents).1).failures.map Failure.source)
    (place : Place) (content : FileContent) :
    get? place (viewsOf request made fs (early ++ [d])).2.tree = some (.file content)
      ↔ get? place (viewsOf request made fs early).2.tree = some (.file content) := by
  have hstep := filled_makeView made.settings made.project.name request.output d
    (viewsOf request made fs early).2
  have hnext : (viewsOf request made fs (early ++ [d])).2
      = ((makeView made.settings made.project.name request.output d : StateM FileSystem _).run
          (viewsOf request made fs early).2).2 := by
    rw [viewsOf, run_makeViews_append, run_makeViews_cons]
    rfl
  rw [hnext]
  cases hanswer : ((makeView made.settings made.project.name request.output d :
      StateM FileSystem _).run (viewsOf request made fs early).2).1 with
  | error e =>
    simp only [hanswer] at hstep
    exact hstep.get?_eq_file_iff (fun _ hpath => absurd hpath List.not_mem_nil) content
  | ok file =>
    have hresult : (d, .ok file) ∈ (viewsOf request made fs documents).1 := by
      rw [hsplit, viewsOf, run_makeViews_append, run_makeViews_cons]
      refine List.mem_append_right _ (List.mem_cons.2 (Or.inl ?_))
      rw [← hanswer]
      rfl
    have hgenerated : d.path ∈ (reportOf made.project
        (viewsOf request made fs documents).1).generated.map GeneratedFile.source :=
      List.mem_map.2 ⟨file, mem_generated_reportOf.2 ⟨d, hresult⟩, (mem_viewsOf hresult).1⟩
    have hmerged := interleaving_viewsOf request made fs documents
    exact absurd hfailed (hmerged.notMem_right honce hgenerated)

/-- The exit code tells whether a document has failed. -/
theorem code_of_run (h : ((run request : StateM FileSystem _).run fs).1 = .ok report)
    {arguments : List Text} (hread : CommandLine.read false arguments = .ok (.convert request)) :
    ((CommandLine.run arguments : StateM FileSystem _).run fs).1.code = 0
      ↔ report.failures = [] := by
  have hending : ((CommandLine.run arguments : StateM FileSystem _).run fs).1
      = CommandLine.ofReport report := by
    rw [CommandLine.run, hread]
    simp only [CommandLine.perform]
    rw [run_bind, h]
    rfl
  rw [hending, CommandLine.ofReport, ← Report.succeeded_iff]
  cases report.succeeded <;> simp

/-- **The report accounts for every document of the catalogue.** -/
theorem report_accounts {fs : TidyDisk}
    (h : ((run request : StateM FileSystem _).run fs).1 = .ok report) :
    ∃ input made, InputPattern.ofText request.pattern = .ok input ∧
      ((plan request : StateM FileSystem _).run fs).1 = .ok made ∧
      (Catalogue.scan input made.settings.conventions made.settings.target.extension :
        StateM FileSystem _).run fs = (.ok made.documents, ↑fs) ∧
      Accounts request made fs ((run request : StateM FileSystem _).run fs).2 report := by
  obtain ⟨made, hplan, hreport, hlast⟩ := exists_plan_of_run h
  obtain ⟨input, hinput, -, -, hfound⟩ := plan_eq_ok_iff.1 hplan
  have hscan : (Catalogue.scan input made.settings.conventions made.settings.target.extension :
      StateM FileSystem _).run fs = (.ok made.documents, ↑fs) := by
    rw [Catalogue.run_scan, hfound]
  obtain ⟨-, -, -, honce, -⟩ := Catalogue.documents_exact hscan
  refine ⟨input, made, hinput, hplan, hscan, ?_⟩
  have hmerged := interleaving_viewsOf request made fs made.documents
  have hfilled := filled_viewsOf request made fs made.documents
  rw [← hreport] at hmerged hfilled
  rw [hlast]
  have htotal : report.total = made.documents.length := by
    have hlength := hmerged.length_eq
    simp only [List.length_map] at hlength
    exact hlength.symm
  exact {
    merged := hmerged
    once := honce
    total := htotal
    summary := htotal ▸ report.numbersIn_summary
    there := by
      intro file hfile
      refine ⟨hfilled.isFile _ (List.mem_map_of_mem hfile), ?_⟩
      rw [hreport] at hfile
      obtain ⟨d, hresult⟩ := mem_generated_reportOf.1 hfile
      have hd : d ∈ made.documents := by
        rw [← map_fst_viewsOf request made fs made.documents]
        exact List.mem_map_of_mem hresult
      exact ⟨d, hd, mem_viewsOf hresult⟩
    kept := by
      intro place hplace content
      refine hfilled.get?_eq_file_iff (fun path hpath => ?_) content
      obtain ⟨file, hfile, rfl⟩ := List.mem_map.1 hpath
      exact hplace file hfile
    last := rfl
    harmless := fun early d late hsplit hfailed =>
      files_of_failure honce hsplit (hreport ▸ hfailed)
    succeeded := Report.succeeded_iff
    code := fun arguments hread => code_of_run h hread }

/-- A document with a base type that is none, and one with a view: the report has both, and the exit
code is that of a failure. -/
theorem report_accounts_mixed :
    let fs : TidyDisk := {
      tree := .folder [
        ("App.csproj".toList, .file (.text "<RootNamespace>App</RootNamespace>".toList)),
        ("Docs".toList, .folder [
          ("Badge.md".toList, .file (.text "---\nviewBase: a-b\n---\n".toList)),
          ("Intro.md".toList, .file (.text "# Hi".toList))])]
      workingFolder := []
      tidy := by decide +kernel }
    let request : Request := ⟨"Docs/*.md".toList, ⟨"Views".toList⟩, none, none⟩
    let report : Report := {
      project := ⟨"App".toList, ⟨"/App.csproj".toList⟩⟩
      generated := [⟨⟨"Intro.md".toList⟩, ⟨"Intro.g.cs".toList⟩, "App.Apps".toList,
        "IntroApp".toList, 0, false⟩]
      failures := [⟨⟨"Badge.md".toList⟩, .badViewBase "a-b".toList⟩] }
    ((run request : StateM FileSystem _).run fs).1 = .ok report ∧
      (((run request : StateM FileSystem _).run fs).2.isFile ⟨"Views/Intro.g.cs".toList⟩ = true ∧
        ((CommandLine.run ["convert".toList, "Docs/*.md".toList, "Views".toList] :
          StateM FileSystem _).run fs).1.code ≠ 0) := by
  intro fs request report
  have hfound : Catalogue.found fs Catalogue.docsInput {} "cs".toList
      = .ok [Catalogue.docsDocument "Badge.md", Catalogue.docsDocument "Intro.md"] :=
    Catalogue.found_eq_ok_iff.2 ⟨rfl, [["Badge.md".toList], ["Intro.md".toList]], rfl,
      (Catalogue.documents_eq (by decide +kernel) (by decide +kernel)).symm, by decide +kernel⟩
  have hplan : ((plan request : StateM FileSystem _).run fs).1
      = .ok ⟨{}, report.project,
        [Catalogue.docsDocument "Badge.md", Catalogue.docsDocument "Intro.md"]⟩ :=
    plan_eq_ok_iff.2 ⟨Catalogue.docsInput, rfl, by decide +kernel, by decide +kernel, hfound⟩
  have hrun : ((run request : StateM FileSystem _).run fs).1 = .ok report := by
    rw [run_run, hplan]
    decide +kernel
  obtain ⟨input, made, -, -, -, haccounts⟩ := report_accounts hrun
  refine ⟨hrun, (haccounts.there _ List.mem_cons_self).1, fun hcode => ?_⟩
  exact absurd ((haccounts.code _ (by decide)).1 hcode) (by simp [report])

end

end Conversion
end DocViews
