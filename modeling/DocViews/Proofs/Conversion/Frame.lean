import DocViews.Proofs.Conversion.Account
import DocViews.Proofs.FileSystem.Missing
import DocViews.Proofs.ViewSource.RoundTrip

/-!
# What one document can change

Making a view ends in one of six ways, with more or less behind it when it ends: no name, a document
that cannot be read, metadata or a base type that does not pass, a folder or a file that cannot be
made, and a view.  `Conversion.makeView_frame` says for each of them what the disk is like
afterwards, on every disk without links: only a view is a file, and only making a view, or trying
to, makes folders.

The check of the base type and the writer of the class both take a declared base type without the
blanks around it, and a blank one as none.  So the base type that is written has passed the check,
or is the one of the settings (`ViewSource.exists_write_eq`).
-/

set_option autoImplicit false

namespace DocViews

open Node FileSystem

/-! ## The paths above -/

/-- A path above another one is written from the first steps of that path; further steps, which go on
from there, are behind them. -/
theorem Disk.exists_steps_of_mem_pathsAbove {path above : Path} (h : above ∈ Disk.pathsAbove path) :
    ∃ steps more, above = Path.ofComponents steps ∧ path.components = steps ++ more ∧
      steps ≠ [] ∧ Path.Sound steps ∧ more ≠ [] ∧ ∀ step ∈ more, Path.IsInner step := by
  obtain ⟨htext, n, hn, rfl⟩ := mem_pathsAbove_iff.1 h
  have hsplit : path.components = path.components.take n ++ path.components.drop n :=
    (List.take_append_drop n path.components).symm
  have hne : path.components.take n ≠ [] := by
    intro hnil
    rw [hnil] at htext
    exact htext rfl
  have hsound := path.sound_components
  rw [hsplit] at hsound
  refine ⟨_, _, rfl, hsplit, hne, hsound.of_append,
    fun hnil => absurd (List.drop_eq_nil_iff.1 hnil) (Nat.not_le.2 hn), fun step hstep => ?_⟩
  refine hsound.isInner_of_mem_tail step ?_
  rw [List.tail_append_of_ne_nil hne]
  exact List.mem_append_right _ hstep

theorem Path.sound_folderComponents (path : Path) : Sound path.folderComponents := by
  have hall := path.sound_components
  rw [← List.take_append_drop (path.components.length - 1) path.components,
    ← List.dropLast_eq_take] at hall
  exact hall.of_append

/-- The folder that holds the last step is above, and so is what is above that. -/
theorem Disk.mem_pathsAbove_of_folder {path above : Path}
    (hfolder : (Path.ofComponents path.folderComponents).text ≠ [])
    (h : above ∈ Path.ofComponents path.folderComponents ::
      Disk.pathsAbove (Path.ofComponents path.folderComponents)) :
    above ∈ Disk.pathsAbove path := by
  have hdrop : path.folderComponents = path.components.take (path.components.length - 1) :=
    List.dropLast_eq_take
  have hlength : 0 < path.components.length := by
    refine List.length_pos_of_ne_nil fun hnil => ?_
    rw [Path.folderComponents, hnil] at hfolder
    exact hfolder rfl
  rw [mem_pathsAbove_iff]
  rcases List.mem_cons.1 h with rfl | h
  · exact ⟨hfolder, path.components.length - 1, by omega, by rw [hdrop]⟩
  · obtain ⟨htext, n, hn, heq⟩ := mem_pathsAbove_iff.1 h
    rw [Path.components_ofComponents path.sound_folderComponents, hdrop] at hn heq
    rw [List.length_take] at hn
    rw [List.take_take, Nat.min_eq_left (by omega)] at heq
    exact ⟨htext, n, by omega, heq⟩

namespace FileSystem

/-- A path above is taken by every disk if the folder of the last step is. -/
theorem fault?_above {path above : Path} (h : above ∈ Disk.pathsAbove path)
    (hfault : (Path.ofComponents path.folderComponents).fault? = none) : above.fault? = none := by
  obtain ⟨steps, more, rfl, hsteps, hne, -, hmore, -⟩ := Disk.exists_steps_of_mem_pathsAbove h
  have hsplit : path.folderComponents = steps ++ more.dropLast := by
    rw [Path.folderComponents, hsteps, List.dropLast_append_of_ne_nil hmore]
  have hsound := path.sound_folderComponents
  rw [hsplit] at hsound hfault
  exact fault?_of_append hsound hne hfault

theorem withoutSlashes_above {path above : Path} (h : above ∈ Disk.pathsAbove path) :
    withoutSlashes above = above := by
  obtain ⟨steps, -, rfl, -, hne, hsound, -, -⟩ := Disk.exists_steps_of_mem_pathsAbove h
  exact withoutSlashes_ofComponents hsound hne

/-- Where a path leads to a node, the paths above it lead to folders. -/
theorem isFolder_above {fs : FileSystem} (hlinks : fs.tree.LinkFree) {path : Path} {place : Place}
    (hspot : fs.spot true path = .ok (.taken place)) {above : Path}
    (h : above ∈ Disk.pathsAbove path) (hfault : above.fault? = none) :
    fs.isFolder above = true := by
  obtain ⟨steps, more, rfl, hsteps, hne, hsound, hmore, hinner⟩ :=
    Disk.exists_steps_of_mem_pathsAbove h
  -- the walk along the whole path goes on behind this folder
  obtain ⟨step, others, rfl⟩ := List.exists_cons_of_ne_nil hmore
  have hwalk := walk_loud hlinks (walk_of_spot hlinks hspot)
  rw [← Path.filterMap_segment?_components, hsteps, List.filterMap_append,
    Path.filterMap_segment?_eq hinner, walk_append hlinks _ (by simp)] at hwalk
  split at hwalk
  · next p hp =>
    have hfolder : faceAt p fs.tree = some emptyFolder := by
      by_contra hother
      rw [List.map_cons, walk_of_ne hother] at hwalk
      exact absurd hwalk (by simp)
    have hstart : fs.startOf (Path.ofComponents steps) = fs.startOf path := by
      refine startOf_eq ?_ fs
      rw [Path.components_ofComponents hsound, hsteps, List.head?_append_of_ne_nil _ hne]
    have habove := spot_ofComponents hlinks hsound hne (hstart ▸ faceAt_startOf hspot) true
    rw [hfault, hstart, hp] at habove
    exact (isFolder_of_spot habove).2 hfolder
  · exact absurd hwalk (by simp)
  · exact absurd hwalk (by simp)

/-- Inner steps go down, if none of them goes up. -/
theorem prefix_foldl_onward {steps : List Component} (h : ∀ step ∈ steps, Path.IsInner step)
    (hdown : Component.parent ∉ steps) (place : Place) :
    place <+: steps.foldl Component.onward place := by
  induction steps generalizing place with
  | nil => exact List.prefix_rfl
  | cons step rest ih =>
    rw [List.mem_cons, not_or] at hdown
    have hstep := h step List.mem_cons_self
    have hrest := ih (fun s hs => h s (List.mem_cons_of_mem _ hs)) hdown.2 (step.onward place)
    cases step with
    | root => exact absurd hstep.segment?_eq (by simp [Component.segment?])
    | here => exact absurd hstep.segment?_eq (by simp [Component.segment?])
    | parent => exact absurd rfl hdown.1
    | name text => exact (List.prefix_append place [text]).trans hrest

/-- Where a path does not go up, what is above it is above its place. -/
theorem resolve_above {path above : Path} (h : above ∈ Disk.pathsAbove path)
    (hdown : Component.parent ∉ path.components) (base : Place) :
    above.resolve base <+: path.resolve base := by
  obtain ⟨steps, more, rfl, hsteps, -, hsound, -, hinner⟩ := Disk.exists_steps_of_mem_pathsAbove h
  rw [hsteps, List.mem_append, not_or] at hdown
  rw [Path.resolve, Path.resolve, Path.components_ofComponents hsound, hsteps, List.foldl_append]
  exact prefix_foldl_onward hinner hdown.2 _

/-- The folders that are laid to the last step of a path are where paths above it lead to. -/
theorem Laid.face_above {path : Path} {fs mid : FileSystem}
    (h : Laid (Path.ofComponents path.folderComponents ::
      Disk.pathsAbove (Path.ofComponents path.folderComponents)) fs mid)
    (hlinks : mid.tree.LinkFree) (q : Place) :
    faceAt q mid.tree = faceAt q fs.tree ∨
      (faceAt q fs.tree = none ∧ faceAt q mid.tree = some emptyFolder ∧
        ∃ above ∈ Disk.pathsAbove path, mid.spot true above = .ok (.taken q)) := by
  rcases h.face q with hsame | ⟨hfree, hnew, above, habove, hspot⟩
  · exact Or.inl hsame
  · have hmem : above ∈ Disk.pathsAbove path := by
      refine Disk.mem_pathsAbove_of_folder (fun hempty => ?_) habove
      -- the empty path is no entry
      rw [(Path.text_ofComponents_eq_nil_iff path.sound_folderComponents).1 hempty] at habove
      obtain rfl : above = ⟨[]⟩ := List.mem_singleton.1 habove
      exact nomatch hspot
    have htext := (mem_pathsAbove_iff.1 hmem).1
    rw [withoutSlashes_above hmem, spot_eq_walk hlinks htext] at hspot
    exact Or.inr ⟨hfree, hnew, above, hmem, (spot_eq_walk hlinks htext true).trans hspot⟩

/-! ## One file and the folders above it -/

/-- A disk that differs from another one by a file at a path, and by folders above it that were
missing. -/
structure FileMade (path : Path) (text : Text) (fs next : FileSystem) : Prop where
  workingFolder : next.workingFolder = fs.workingFolder
  reads : next.readText path = .ok text
  above : ∀ folder ∈ Disk.pathsAbove path, next.isFolder folder = true
  /-- A place shows what it has shown, or the path leads there, or a path above it leads there and
  the place was free. -/
  face : ∀ q, faceAt q next.tree = faceAt q fs.tree ∨
    (next.spot true path = .ok (.taken q) ∧
      (faceAt q fs.tree = none ∨ ∃ old, faceAt q fs.tree = some (.file old))) ∨
    (faceAt q fs.tree = none ∧ faceAt q next.tree = some emptyFolder ∧
      ∃ folder ∈ Disk.pathsAbove path, next.spot true folder = .ok (.taken q))

namespace FileMade

variable {path : Path} {text : Text} {fs next : FileSystem}

/-- Where the path does not go up, everything new is above its place, or there. -/
theorem prefix_of_new (h : FileMade path text fs next) (hlinks : next.tree.LinkFree)
    (hdown : Component.parent ∉ path.components) {q : Place} (hfree : faceAt q fs.tree = none)
    (hnew : faceAt q next.tree ≠ none) : q <+: path.resolve next.workingFolder := by
  rcases h.face q with hsame | ⟨hspot, -⟩ | ⟨-, -, above, habove, hspot⟩
  · exact absurd (hsame.trans hfree) hnew
  · rw [← spot_place hlinks hspot]
    exact List.prefix_rfl
  · have hplace : q = above.resolve next.workingFolder := spot_place hlinks hspot
    rw [hplace]
    exact resolve_above habove hdown next.workingFolder

end FileMade

/-- **Writing below folders makes one file and what is missing above it.** -/
theorem fileMade_writeBelow {fs next : FileSystem} (hlinks : fs.tree.LinkFree) {path : Path}
    {text : Text}
    (h : (Conversion.writeBelow path text : StateM FileSystem _).run fs = (.ok (), next)) :
    FileMade path text fs next := by
  have hlaid := lays_makeFolders (Path.ofComponents path.folderComponents) fs
  have hfault := @fault?_of_makeFolders fs (Path.ofComponents path.folderComponents)
  rw [Conversion.run_writeBelow] at h
  generalize (Disk.makeFolders (Path.ofComponents path.folderComponents) :
    StateM FileSystem _).run fs = folders at hlaid hfault h
  obtain ⟨answer, mid⟩ := folders
  cases answer with
  | error fault => exact absurd (Prod.mk.inj h).1 (by simp)
  | ok done =>
    simp only [change] at h
    cases hwrite : mid.write path (.text text) with
    | error fault =>
      rw [hwrite] at h
      exact absurd (Prod.mk.inj h).1 (by simp)
    | ok last =>
      rw [hwrite] at h
      obtain rfl : last = next := (Prod.mk.inj h).2
      have hlinksMid := hlaid.grown.linkFree hlinks
      obtain ⟨hfolder, hold, hface⟩ := write_face hlinksMid hwrite
      obtain ⟨place, hleads, -, hgrown⟩ := spot_of_write hwrite
      have hlinksLast := hgrown.linkFree hlinksMid
      have hplace : path.resolve mid.workingFolder = place := by
        rw [← hfolder]
        exact (spot_place hlinksLast hleads).symm
      rw [hplace] at hold hface
      refine ⟨hfolder.trans hlaid.workingFolder, readText_write hwrite, fun above habove => ?_,
        fun q => ?_⟩
      · exact isFolder_above hlinksLast hleads habove (fault?_above habove (hfault rfl))
      · by_cases hq : q = place
        · subst hq
          refine Or.inr (Or.inl ⟨hleads, ?_⟩)
          rcases hlaid.face q with hsame | ⟨hfree, -, -⟩
          · rwa [← hsame]
          · exact Or.inl hfree
        · rw [hface, if_neg hq]
          rcases hlaid.face_above hlinksMid q with hsame | ⟨hfree, hnew, above, habove, hspot⟩
          · exact Or.inl hsame
          · exact Or.inr (Or.inr
              ⟨hfree, hnew, above, habove, spot_taken_grown hgrown hfolder hspot⟩)

end FileSystem

/-! ## The line of the class -/

namespace ViewSource

/-- The class stands on a line of its own, with its base type at the end. -/
theorem exists_write_eq (target : Target) (nameSpace className : Text) (order : Int)
    (metadata : Metadata) (body : Text) :
    ∃ before after, write target nameSpace className order metadata body
      = before ++ '\n' :: ("public class ".toList ++ className ++ [' ', ':', ' ']
          ++ baseType metadata target ++ '\n' :: after) := by
  refine ⟨importLines target.imports ++ line ("namespace ".toList ++ nameSpace ++ [';'])
      ++ line [] ++ attributeLine order metadata target,
    line ['\x7b'] ++ line "    public override object? Build()".toList ++ line "    \x7b".toList
      ++ returnStatement target.viewType body ++ line "    \x7d".toList ++ line ['\x7d'], ?_⟩
  simp only [write, line, List.append_assoc, List.cons_append, List.nil_append]

end ViewSource

/-! ## What is refused -/

theorem Metadata.declared_eq_some_iff {text : Option Text} {name : Text} :
    declared text = some name ↔ ∃ raw, text = some raw ∧ Text.trim raw = name ∧ name ≠ [] := by
  rw [declared, Option.filter_eq_some_iff]
  cases text with
  | none => simp
  | some raw =>
    simp only [Option.map_some, Option.some.injEq, exists_eq_left', decide_eq_true_eq]

namespace View

/-- A base type does not pass if it is declared, not blank, and no dotted path. -/
theorem checkBase_eq_error_iff {metadata : Metadata} {e : DocumentError} :
    checkBase metadata = .error e
      ↔ ∃ raw, metadata.viewBase = some raw ∧ Text.trim raw ≠ [] ∧
        Identifier.isDottedPath (Text.trim raw) = false ∧ e = .badViewBase (Text.trim raw) := by
  have hdeclared := @Metadata.declared_eq_some_iff metadata.viewBase
  rw [checkBase]
  cases hname : Metadata.declared metadata.viewBase with
  | none =>
    refine iff_of_false (by simp) ?_
    rintro ⟨raw, hraw, htrim, -⟩
    exact absurd (hname.symm.trans (hdeclared.2 ⟨raw, hraw, rfl, htrim⟩)) (by simp)
  | some name =>
    obtain ⟨raw, hraw, rfl, htrim⟩ := hdeclared.1 hname
    simp only [hraw, Option.some.injEq, exists_eq_left']
    cases hpath : Identifier.isDottedPath (Text.trim raw) with
    | true => simp
    | false => simp [htrim, eq_comm]

theorem ofText_eq_error_iff {settings : Settings} {rootNamespace : Text} {d : Document}
    {text : Text} {e : DocumentError} :
    ofText settings rootNamespace d text = .error e ↔
      (∃ problem, Content.ofSource (Body.stripMark text) = .error problem ∧
        e = .metadata problem) ∨
      ∃ content, Content.ofSource (Body.stripMark text) = .ok content ∧
        checkBase content.metadata = .error e := by
  rw [ofText]
  cases hcontent : Content.ofSource (Body.stripMark text) with
  | error problem => simp [eq_comm]
  | ok content =>
    cases hbase : checkBase content.metadata with
    | error other => simp [hbase]
    | ok done => simp [hbase]

end View

/-! ## One document -/

namespace Conversion

variable {settings : Settings} {rootNamespace : Text} {output : Path} {d : Document}
  {fs : FileSystem}

/-- **What a document with a view leaves behind.** -/
theorem fileMade_makeView (hlinks : fs.tree.LinkFree) {file : GeneratedFile}
    (h : ((makeView settings rootNamespace output d : StateM FileSystem _).run fs).1 = .ok file) :
    ∃ text content, fs.readText d.place = .ok text ∧
      Content.ofSource (Body.stripMark text) = .ok content ∧
      View.checkBase content.metadata = .ok () ∧
      file = (View.ofContent settings rootNamespace d content).file ∧
      FileMade (output.join file.output) (View.ofContent settings rootNamespace d content).text fs
        ((makeView settings rootNamespace output d : StateM FileSystem _).run fs).2 := by
  obtain ⟨text, view, hread, hview, rfl, hwritten⟩ :=
    run_makeView_of_ok settings rootNamespace output h
  obtain ⟨content, hcontent, hbase, rfl⟩ := View.ofText_eq_ok_iff.1 hview
  exact ⟨text, content, hread, hcontent, hbase, rfl, fileMade_writeBelow hlinks hwritten⟩

/-- **A document that fails before its view is written changes nothing.** -/
theorem makeView_refused {e : DocumentError}
    (h : ((makeView settings rootNamespace output d : StateM FileSystem _).run fs).1 = .error e)
    (hrefused : ∀ fault, e = .disk fault → fs.readText d.place = .error fault) :
    ((makeView settings rootNamespace output d : StateM FileSystem _).run fs).2 = fs := by
  by_cases hstem : d.stem = []
  · rw [run_makeView_nameless settings rootNamespace output hstem]
  · rw [run_makeView settings rootNamespace output hstem] at h ⊢
    cases hread : fs.readText d.place with
    | error fault => rfl
    | ok text =>
      rw [hread] at h
      simp only at h ⊢
      cases hview : View.ofText settings rootNamespace d text with
      | error other => rfl
      | ok view =>
        rw [hview] at h
        simp only at h ⊢
        cases hwritten : (writeBelow (viewPath settings output d) view.text :
          StateM FileSystem _).run fs with
        | mk answer next =>
          rw [hwritten] at h
          cases answer with
          | ok done => exact absurd h (by simp)
          | error fault =>
            have hfault := hrefused fault (Except.error.inj h).symm
            rw [hread] at hfault
            exact absurd hfault (by simp)

/-- A document that cannot be read changes nothing. -/
theorem makeView_unread {fault : DiskFault} (hread : fs.readText d.place = .error fault) :
    ((makeView settings rootNamespace output d : StateM FileSystem _).run fs).2 = fs := by
  by_cases hstem : d.stem = []
  · rw [run_makeView_nameless settings rootNamespace output hstem]
  · rw [run_makeView settings rootNamespace output hstem, hread]

/-- Of a document that has been read, the disk has no part in any other error than its own. -/
theorem makeView_error_iff {text : Text} {e : DocumentError} (hstem : d.stem ≠ [])
    (hread : fs.readText d.place = .ok text) (he : ∀ fault, e ≠ .disk fault) :
    ((makeView settings rootNamespace output d : StateM FileSystem _).run fs).1 = .error e
      ↔ View.ofText settings rootNamespace d text = .error e := by
  rw [run_makeView settings rootNamespace output hstem, hread]
  simp only
  cases View.ofText settings rootNamespace d text with
  | error other => simp
  | ok view =>
    simp only
    cases (writeBelow (viewPath settings output d) view.text : StateM FileSystem _).run fs with
    | mk answer next =>
      cases answer with
      | error fault => simpa using (he fault).symm
      | ok done => simp

/-- **When a base type is refused.** -/
theorem makeView_badViewBase_iff {name : Text} :
    ((makeView settings rootNamespace output d : StateM FileSystem _).run fs).1
        = .error (.badViewBase name)
      ↔ d.stem ≠ [] ∧ ∃ text content raw, fs.readText d.place = .ok text ∧
        Content.ofSource (Body.stripMark text) = .ok content ∧
        content.metadata.viewBase = some raw ∧ Text.trim raw = name ∧ name ≠ [] ∧
        Identifier.isDottedPath name = false := by
  by_cases hstem : d.stem = []
  · rw [run_makeView_nameless settings rootNamespace output hstem]
    simp [hstem]
  · cases hread : fs.readText d.place with
    | error fault =>
      rw [run_makeView settings rootNamespace output hstem, hread]
      simp
    | ok text =>
      rw [makeView_error_iff hstem hread (by simp), View.ofText_eq_error_iff]
      simp only [View.checkBase_eq_error_iff, reduceCtorEq, and_false, exists_false, false_or,
        DocumentError.badViewBase.injEq, Except.ok.injEq, hstem, not_false_eq_true, ne_eq,
        true_and]
      constructor
      · rintro ⟨content, hcontent, raw, hraw, htrim, hpath, rfl⟩
        exact ⟨text, content, raw, rfl, hcontent, hraw, rfl, htrim, hpath⟩
      · rintro ⟨_, content, raw, rfl, hcontent, hraw, rfl, htrim, hpath⟩
        exact ⟨content, hcontent, raw, hraw, htrim, hpath, rfl⟩

/-- **The frame of one document.**  A view leaves its text at its path and what was missing above
it, and its base type is a dotted path.  A document without a name, one that cannot be read, and one
whose metadata or base type does not pass leave the disk as it is.  Whatever goes wrong, every file
is there with what it held, and no other.  A base type is refused exactly when the document has a
name, can be read, and declares one that is not blank and no dotted path. -/
theorem makeView_frame (hsettings : settings.firstFault? = none) (hlinks : fs.tree.LinkFree)
    (rootNamespace : Text) (output : Path) (d : Document) :
    let run := (makeView settings rootNamespace output d : StateM FileSystem _).run fs
    (∀ file, run.1 = .ok file →
      ∃ text content, fs.readText d.place = .ok text ∧
        Content.ofSource (Body.stripMark text) = .ok content ∧
        file = (View.ofContent settings rootNamespace d content).file ∧
        FileMade (output.join file.output)
          (ViewSource.write settings.target file.nameSpace file.className file.order
            content.metadata content.body) fs run.2 ∧
        (Component.parent ∉ (output.join file.output).components →
          ∀ q, faceAt q fs.tree = none → faceAt q run.2.tree ≠ none →
            q <+: (output.join file.output).resolve fs.workingFolder) ∧
        ∃ before base after,
          ViewSource.write settings.target file.nameSpace file.className file.order
              content.metadata content.body
            = before ++ '\n' :: ("public class ".toList ++ file.className ++ [' ', ':', ' '] ++ base
                ++ '\n' :: after) ∧
          base = ((content.metadata.viewBase.map Text.trim).filter (· ≠ [])).getD
            settings.target.viewBase ∧
          Identifier.isDottedPath base = true) ∧
    ((run.1 = .error .emptyName ∨ (∃ fault, fs.readText d.place = .error fault) ∨
        (∃ problem, run.1 = .error (.metadata problem)) ∨
        ∃ name, run.1 = .error (.badViewBase name)) → run.2 = fs) ∧
    (∀ e, run.1 = .error e → ∀ place content,
      get? place run.2.tree = some (.file content) ↔ get? place fs.tree = some (.file content)) ∧
    ∀ name, run.1 = .error (.badViewBase name)
      ↔ d.stem ≠ [] ∧ ∃ text content raw, fs.readText d.place = .ok text ∧
        Content.ofSource (Body.stripMark text) = .ok content ∧
        content.metadata.viewBase = some raw ∧ Text.trim raw = name ∧ name ≠ [] ∧
        Identifier.isDottedPath name = false := by
  intro run
  refine ⟨fun file hfile => ?_, fun hrefused => ?_, fun e he => ?_,
    fun name => makeView_badViewBase_iff⟩
  · obtain ⟨text, content, hread, hcontent, hbase, rfl, hmade⟩ := fileMade_makeView hlinks hfile
    have hlinksNext : run.2.tree.LinkFree :=
      (filled_makeView settings rootNamespace output d fs).grown.linkFree hlinks
    obtain ⟨before, after, hline⟩ := ViewSource.exists_write_eq settings.target
      (View.ofContent settings rootNamespace d content).file.nameSpace d.className
      (View.ofContent settings rootNamespace d content).file.order content.metadata content.body
    refine ⟨text, content, hread, hcontent, rfl, hmade, fun hdown q hfree hnew => ?_, before, _, after,
      hline, rfl, ?_⟩
    · have hprefix := hmade.prefix_of_new hlinksNext hdown hfree hnew
      rwa [hmade.workingFolder] at hprefix
    · exact ViewSource.isDottedPath_baseType
        (Settings.namesPass_of_firstFault?_eq_none hsettings) hbase
  · rcases hrefused with hrun | ⟨fault, hread⟩ | ⟨problem, hrun⟩ | ⟨name, hrun⟩
    · exact makeView_refused hrun (by simp)
    · exact makeView_unread hread
    · exact makeView_refused hrun (by simp)
    · exact makeView_refused hrun (by simp)
  · have hfilled := filled_makeView settings rootNamespace output d fs
    rw [he] at hfilled
    exact fun place content =>
      hfilled.get?_eq_file_iff (fun _ hpath => absurd hpath List.not_mem_nil) content

/-- One page names its base type, with a blank before it; the other one names none that passes. -/
theorem makeView_frame_bases :
    let fs : FileSystem := {
      tree := .folder [
        ("Docs".toList, .folder [
          ("Badge.md".toList, .file (.text "---\nviewBase: a-b\n---\n".toList)),
          ("Intro.md".toList, .file (.text "---\nviewBase: \" My.Base\"\n---\n# Hi".toList))])]
      workingFolder := [] }
    let document (name : String) : Document :=
      Document.describe {} ⟨['/']⟩ ⟨"Docs".toList⟩ ⟨"Docs/".toList ++ name.toList⟩
    let run (name : String) := (makeView {} "App".toList ⟨"Views".toList⟩ (document name) :
      StateM FileSystem _).run fs
    ((({} : Settings).firstFault? = none ∧ fs.tree.LinkFree) ∧
        (run "Intro.md").1.isOk = true ∧
        (run "Badge.md").1 = .error (.badViewBase "a-b".toList)) ∧
      (run "Intro.md").2.isFolder ⟨"Views".toList⟩ = true ∧ (run "Badge.md").2 = fs := by
  intro fs document run
  have hsettings : ({} : Settings).firstFault? = none := by decide +kernel
  have hlinks : fs.tree.LinkFree := .cons (.cons (.file _) (.cons (.file _) .nil)) .nil
  have hbadge : (run "Badge.md").1 = .error (.badViewBase "a-b".toList) := by decide +kernel
  have hfile : (run "Intro.md").1 = .ok ⟨⟨"Intro.md".toList⟩, ⟨"Intro.g.cs".toList⟩,
      "App.Apps".toList, "IntroApp".toList, 0, false⟩ := by decide +kernel
  obtain ⟨hmade, -⟩ := makeView_frame hsettings hlinks "App".toList ⟨"Views".toList⟩
    (document "Intro.md")
  obtain ⟨-, hrefused, -⟩ := makeView_frame hsettings hlinks "App".toList ⟨"Views".toList⟩
    (document "Badge.md")
  obtain ⟨text, content, -, -, -, hthere, -⟩ := hmade _ hfile
  refine ⟨⟨⟨hsettings, hlinks⟩, by rw [hfile]; rfl, hbadge⟩, ?_, ?_⟩
  · exact hthere.above ⟨"Views".toList⟩ (by decide +kernel)
  · exact hrefused (Or.inr (Or.inr (Or.inr ⟨_, hbadge⟩)))

end Conversion
end DocViews
