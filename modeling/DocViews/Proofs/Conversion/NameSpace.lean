import DocViews.Proofs.Catalogue.Outputs
import DocViews.Proofs.Conversion.Account
import DocViews.Proofs.Document.NameSpace
import DocViews.Proofs.Settings.Names

/-!
# The namespaces of a run

A namespace is put together from three parts, and two of them are always well formed: the
conventional segment, because settings that are loaded have been checked, and the suffix, because
folder names are repaired.  The root is what the project descriptor says, as it says it.  So **the
namespaces of a run are dotted paths exactly when the root is one** (`Conversion.nameSpaces_exact`).
-/

set_option autoImplicit false

namespace DocViews

open FileSystem (run_bind)

/-! ## Settings that are loaded -/

namespace Settings

variable {fs : FileSystem} {s : Settings}

theorem namesPass_of_run_loadFile {path : Path}
    (h : ((loadFile path : StateM FileSystem _).run fs).1 = .ok s) : s.NamesPass := by
  rw [run_loadFile] at h
  cases hread : fs.readText path with
  | error fault =>
    rw [hread] at h
    exact nomatch h
  | ok text =>
    rw [hread] at h
    simp only at h
    cases htext : ofText text with
    | error e =>
      rw [htext] at h
      exact nomatch h
    | ok loaded =>
      rw [htext] at h
      obtain rfl : loaded = s := Except.ok.inj h
      exact namesPass_of_ofText htext

theorem namesPass_of_run_load {root : Path}
    (h : ((load root : StateM FileSystem _).run fs).1 = .ok s) : s.NamesPass := by
  rw [load, run_bind] at h
  split at h
  · exact namesPass_of_run_loadFile h
  · cases hstock : resolve [] with
    | error e =>
      rw [hstock] at h
      exact nomatch h
    | ok stock =>
      rw [hstock] at h
      obtain rfl : stock = s := Except.ok.inj h
      exact namesPass_of_resolve hstock

/-- The stock settings are what nothing is laid over, and pass. -/
theorem resolve_nil : resolve [] = .ok {} := by decide +kernel

/-- Without a settings file the stock settings hold. -/
theorem run_load_of_isFile_eq_false {root : Path} (h : fs.isFile (root.join ⟨fileName⟩) = false) :
    (load root : StateM FileSystem _).run fs = (.ok {}, fs) := by
  have hanswer : (Disk.isFile (root.join ⟨fileName⟩) : StateM FileSystem _).run fs = (false, fs) :=
    Prod.ext h rfl
  rw [load, run_bind, hanswer]
  simp only [resolve_nil, Bool.false_eq_true, if_false]
  rfl

end Settings

theorem Conversion.namesPass_of_run_loadSettings {request : Request} {root : Path}
    {fs : FileSystem} {s : Settings}
    (h : ((loadSettings request root : StateM FileSystem _).run fs).1 = .ok s) : s.NamesPass := by
  rw [loadSettings] at h
  split at h
  · exact Settings.namesPass_of_run_loadFile h
  · exact Settings.namesPass_of_run_load h

/-! ## Projects that are found -/

namespace Project

/-- The name of a project is what its descriptor declares. -/
def IsDeclared (fs : FileSystem) (project : Project) : Prop :=
  ∃ text, fs.readText project.descriptor = .ok text ∧
    RootNamespace.ofText? text = some project.name

variable {fs : FileSystem} {project : Project}

theorem isDeclared_of_run_read {descriptor : Path}
    (h : ((read descriptor : StateM FileSystem _).run fs).1 = .ok project) :
    project.IsDeclared fs := by
  rw [run_read] at h
  cases hread : fs.readText descriptor with
  | error fault =>
    rw [hread] at h
    exact nomatch h
  | ok text =>
    rw [hread] at h
    change ofDescriptor descriptor text = .ok project at h
    rw [ofDescriptor] at h
    split at h
    · next name hname =>
      obtain rfl := Except.ok.inj h
      exact ⟨text, hread, hname⟩
    · exact nomatch h

theorem isDeclared_of_run_locate {start : Path} {extension : Text}
    (h : ((locate start extension : StateM FileSystem _).run fs).1 = .ok project) :
    project.IsDeclared fs := by
  rw [locate, run_bind] at h
  split at h
  · exact nomatch h
  · next folder _ =>
    rw [run_bind, asksOnly_findDescriptor?, FileSystem.AsksOnly.canonical] at h
    split at h
    · exact nomatch h
    · exact nomatch h
    · exact isDeclared_of_run_read h

end Project

namespace Conversion

theorem isDeclared_of_run_findProject {request : Request} {root : Path} {extension : Text}
    {fs : FileSystem} {project : Project}
    (h : ((findProject request root extension : StateM FileSystem _).run fs).1 = .ok project) :
    project.IsDeclared fs := by
  rw [findProject] at h
  split at h
  · exact Project.isDeclared_of_run_read h
  · exact Project.isDeclared_of_run_locate h

/-! ## A project and one document -/

/-- A disk with a descriptor that declares a name, and a document in a numbered folder. -/
def namedDisk (name : Text) : FileSystem where
  tree := .folder [
    ("App.csproj".toList, .file (.text (RootNamespace.openTag ++ name ++ RootNamespace.closeTag))),
    ("Docs".toList, .folder [
      ("2_Getting-Started".toList, .folder [("1_Intro.md".toList, Catalogue.page)])])]
  workingFolder := []

def docsRequest : Request :=
  ⟨"Docs/*.md".toList, ⟨"Views".toList⟩, none, none⟩

/-- The report of a run over the document, if its project has a name. -/
def namedReport (name : Text) : Report where
  project := ⟨name, ⟨"/App.csproj".toList⟩⟩
  generated := [⟨⟨"2_Getting-Started/1_Intro.md".toList⟩, ⟨"Getting-Started/Intro.g.cs".toList⟩,
    name ++ ".Apps.Getting_Started".toList, "IntroApp".toList, 1, false⟩]
  failures := []

/-- What the descriptor declares is all that the plan of the run depends on. -/
theorem run_namedDisk {name : Text}
    (hproject : ((findProject docsRequest Catalogue.docsInput.root "csproj".toList :
      StateM FileSystem _).run (namedDisk name)).1 = .ok (namedReport name).project)
    (hmade : ((execute docsRequest.output ⟨{}, (namedReport name).project,
        [Catalogue.docsDocument "2_Getting-Started/1_Intro.md"]⟩ : StateM FileSystem _).run
      (namedDisk name)).1 = .ok (namedReport name)) :
    ((run docsRequest : StateM FileSystem _).run (namedDisk name)).1 = .ok (namedReport name) := by
  have hdocuments : Catalogue.documents Catalogue.docsInput {} (Path.ofPlace [])
      [["2_Getting-Started".toList, "1_Intro.md".toList]]
        = [Catalogue.docsDocument "2_Getting-Started/1_Intro.md"] :=
    Catalogue.documents_eq (by decide +kernel) (by decide +kernel)
  have hfound : Catalogue.found (namedDisk name) Catalogue.docsInput {} "cs".toList
      = .ok [Catalogue.docsDocument "2_Getting-Started/1_Intro.md"] :=
    Catalogue.found_eq_ok_iff.2 ⟨rfl, _, rfl, hdocuments.symm, by decide +kernel⟩
  have hsettings : ((loadSettings docsRequest Catalogue.docsInput.root :
      StateM FileSystem _).run (namedDisk name)).1
        = .ok {} :=
    congrArg Prod.fst (Settings.run_load_of_isFile_eq_false rfl)
  have hplan : ((plan docsRequest : StateM FileSystem _).run (namedDisk name)).1
      = .ok ⟨{}, (namedReport name).project,
        [Catalogue.docsDocument "2_Getting-Started/1_Intro.md"]⟩ :=
    plan_eq_ok_iff.2 ⟨Catalogue.docsInput, rfl, hsettings, hproject, hfound⟩
  rw [run_run, hplan]
  exact hmade

/-! ## Namespaces -/

variable {request : Request} {fs : FileSystem} {report : Report}

/-- The namespace of a view is the one that its document has below the root. -/
theorem nameSpace_of_makeView {settings : Settings} {rootNamespace : Text} {output : Path}
    {d : Document} {file : GeneratedFile}
    (h : ((makeView settings rootNamespace output d : StateM FileSystem _).run fs).1 = .ok file) :
    file.nameSpace
      = fullNamespace rootNamespace settings.target.appsSegment d.location.namespaceSuffix := by
  obtain ⟨text, view, -, hview, rfl, -⟩ := exists_view_of_makeView settings rootNamespace output h
  obtain ⟨content, -, -, rfl⟩ := View.ofText_eq_ok_iff.1 hview
  rfl

/-- **The namespaces of a run are dotted paths exactly when the root namespace is one.**  The root
is what the descriptor declares; everything behind it is a dotted path in every run. -/
theorem nameSpaces_exact (h : ((run request : StateM FileSystem _).run fs).1 = .ok report) :
    report.project.IsDeclared fs ∧
      ∀ file ∈ report.generated, ∃ below,
        file.nameSpace = report.project.name ++ '.' :: below ∧
        Identifier.isDottedPath below = true ∧
        (Identifier.isDottedPath file.nameSpace = true
          ↔ Identifier.isDottedPath report.project.name = true) := by
  obtain ⟨made, hplan, hreport, -⟩ := exists_plan_of_run h
  obtain ⟨input, -, hsettings, hproject, hfound⟩ := plan_eq_ok_iff.1 hplan
  rw [hreport]
  refine ⟨isDeclared_of_run_findProject hproject, fun file hfile => ?_⟩
  obtain ⟨d, hresult⟩ := mem_generated_reportOf.1 hfile
  obtain ⟨hd, before, hmade⟩ := exists_makeView_of_mem_makeViews _ _ _ hresult
  have hlocation := (Catalogue.isDescribed_of_mem_found hfound hd).location
  have hsuffix : d.location.namespaceSuffix ≠ [] →
      Identifier.isDottedPath d.location.namespaceSuffix = true := by
    rw [hlocation]
    exact Location.isDottedPath_ofNames
  obtain ⟨below, hbelow, hpath⟩ := exists_below_of_fullNamespace made.project.name
    (namesPass_of_run_loadSettings hsettings).appsSegment hsuffix
  rw [← nameSpace_of_makeView hmade] at hbelow
  refine ⟨below, hbelow, hpath, ?_⟩
  rw [hbelow, Identifier.isDottedPath_append_point]
  exact and_iff_left hpath

/-- A root of two names, and a folder whose name is repaired. -/
theorem nameSpaces_exact_library :
    ((run docsRequest : StateM FileSystem _).run (namedDisk "Acme.Docs".toList)).1
        = .ok (namedReport "Acme.Docs".toList) ∧
      Identifier.isDottedPath "Acme.Docs.Apps.Getting_Started".toList = true := by
  have hrun : ((run docsRequest : StateM FileSystem _).run (namedDisk "Acme.Docs".toList)).1
      = .ok (namedReport "Acme.Docs".toList) :=
    run_namedDisk (by decide +kernel) (by decide +kernel)
  obtain ⟨-, hfiles⟩ := nameSpaces_exact hrun
  obtain ⟨-, -, -, hiff⟩ := hfiles _ List.mem_cons_self
  exact ⟨hrun, hiff.2 (by decide +kernel)⟩

/-- A root with a blank in it. -/
theorem nameSpace_with_blank :
    ((run docsRequest : StateM FileSystem _).run (namedDisk "My App".toList)).1
        = .ok (namedReport "My App".toList) ∧
      ∃ file ∈ (namedReport "My App".toList).generated,
        Identifier.isDottedPath file.nameSpace = false :=
  ⟨run_namedDisk (by decide +kernel) (by decide +kernel),
    _, List.mem_cons_self, by decide +kernel⟩

end Conversion
end DocViews
