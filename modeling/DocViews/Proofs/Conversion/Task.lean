import DocViews.Proofs.Conversion.ViewPath

/-!
# The view of one document

Making a view reads the document and writes the view.  If the path of the view descends, the changes
are those of writing it (`makeView_face`), and on a disk that has grown in the meantime the answer
and the changes are the same, as long as the document reads the same, what has grown on the way to
the view are folders, and nothing has been put in its place (`makeView_sameChange`).
-/

set_option autoImplicit false

namespace DocViews

open Node FileSystem

section

variable {settings : Settings} {rootNamespace : Text} {d : Document} {text : Text} {view : View}

/-- A view is made of what is in the document, if its base type passes. -/
theorem View.ofText_eq_ok_iff :
    View.ofText settings rootNamespace d text = .ok view ↔
      ∃ content, Content.ofSource (Body.stripMark text) = .ok content ∧
        checkBase content.metadata = .ok () ∧ view = ofContent settings rootNamespace d content := by
  rw [ofText]
  cases hcontent : Content.ofSource (Body.stripMark text) with
  | error problem => simp
  | ok content =>
    cases hbase : checkBase content.metadata with
    | error e => simp [hbase]
    | ok done => simp [hbase, eq_comm]

/-- The view of a document goes to its output. -/
theorem View.output_of_ofText (h : View.ofText settings rootNamespace d text = .ok view) :
    view.file.output = d.output settings.target.extension := by
  obtain ⟨content, -, -, rfl⟩ := ofText_eq_ok_iff.1 h
  rfl

theorem View.source_of_ofText (h : View.ofText settings rootNamespace d text = .ok view) :
    view.file.source = d.path := by
  obtain ⟨content, -, -, rfl⟩ := ofText_eq_ok_iff.1 h
  rfl

end

namespace FileSystem

/-- A path reads the same where it leads to the same spot and the same shows there. -/
theorem readText_congr {fs gs : FileSystem} {path : Path}
    (hspot : gs.spot true path = fs.spot true path)
    (hface : ∀ p, fs.spot true path = .ok (.taken p) → faceAt p gs.tree = faceAt p fs.tree) :
    gs.readText path = fs.readText path := by
  have hcontent : gs.readContent path = fs.readContent path := by
    rw [readContent, readContent, node, node, hspot]
    cases h : fs.spot true path with
    | error fault => rfl
    | ok spot =>
      cases spot with
      | free above name => rfl
      | taken p =>
        have hsame := hface p h
        rw [faceAt, faceAt] at hsame
        simp only
        -- of what is at the place, only the face matters
        cases hgs : get? p gs.tree with
        | none =>
          rw [hgs] at hsame
          rw [Option.map_eq_none_iff.1 hsame.symm]
        | some node =>
          rw [hgs] at hsame
          obtain ⟨other, hfs, hother⟩ := Option.map_eq_some_iff.1 hsame.symm
          rw [hfs]
          cases node with
          | file content => rw [face_eq_file_iff.1 hother]
          | link target => rw [face_eq_link_iff.1 hother]
          | folder entries =>
            obtain ⟨more, rfl⟩ := face_eq_emptyFolder_iff.1 hother
            rfl
  rw [readText, readText, hcontent]

section

variable {written : Place → Prop} {fs gs : FileSystem} {path : Path}
  (h : Grown written fs.tree gs.tree) (hlinks : fs.tree.LinkFree)
  (hclear : ¬ written (path.resolve fs.workingFolder))

include h hlinks hclear

/-- Where a path leads shows the same, unless something is written there. -/
theorem faceAt_eq_of_grown {p : Place} (hp : fs.spot true path = .ok (.taken p)) :
    faceAt p gs.tree = faceAt p fs.tree := by
  -- what is there has not been made, and it has not been written either
  have hthere : faceAt p fs.tree ≠ none := spot_fits hp
  have hplace : p = path.resolve fs.workingFolder := spot_place hlinks hp
  rcases h p with hsame | ⟨hfree, -⟩ | ⟨hwritten, -⟩
  · exact hsame
  · exact absurd hfree hthere
  · exact absurd (hplace ▸ hwritten) hclear

variable (hfolder : gs.workingFolder = fs.workingFolder)
  (hstart : faceAt (fs.startOf path) fs.tree ≠ none)

include hfolder hstart

/-- **A path reads the same on a disk that has grown**, if nothing has come where it was missing
something, and nothing has been written where it leads. -/
theorem readText_of_grown
    (hmissing : ∀ gap, fs.missing? path = some gap → faceAt gap gs.tree = none) :
    gs.readText path = fs.readText path :=
  readText_congr (spot_eq_of_grown h hlinks hfolder hstart hmissing true) fun _ =>
    faceAt_eq_of_grown h hlinks hclear

/-- **A path that names no file reads the same on a disk that has grown, or it was missing and is
refused for another reason now**, whatever has come where it was missing something. -/
theorem readText_grown_of_not_namesFile (hfile : fs.namesFile path = false) :
    gs.readText path = fs.readText path ∨
      (fs.readText path = .error .notFound ∧ ∃ fault, gs.readText path = .error fault) := by
  have hrefused : ∃ fault, gs.readText path = .error fault :=
    readText_of_not_isFile (isFile_eq_false_of_grown h hlinks hfolder hclear hfile)
  have hgrown := spot_grown h hfolder true path hstart
  generalize hfs : fs.spot true path = before at hgrown
  generalize hgs : gs.spot true path = after at hgrown
  cases hgrown with
  | taken place =>
    exact Or.inl (readText_congr (hgs.trans hfs.symm) fun _ => faceAt_eq_of_grown h hlinks hclear)
  | refused fault =>
    exact Or.inl (readText_congr (hgs.trans hfs.symm) fun _ => faceAt_eq_of_grown h hlinks hclear)
  | free hfree => exact Or.inr ⟨readText_of_spot (Or.inr ⟨_, _, hfs⟩), hrefused⟩
  | filled hfilled => exact Or.inr ⟨readText_of_spot (Or.inr ⟨_, _, hfs⟩), hrefused⟩
  | missing => exact Or.inr ⟨readText_of_spot (Or.inl hfs), hrefused⟩

end

end FileSystem

namespace Conversion

variable (settings : Settings) (rootNamespace : Text) (output : Path)

theorem run_makeView_nameless {d : Document} (h : d.stem = []) (fs : FileSystem) :
    (makeView settings rootNamespace output d : StateM FileSystem _).run fs
      = (.error .emptyName, fs) := by
  rw [makeView, if_pos h]
  rfl

theorem run_makeView {d : Document} (h : d.stem ≠ []) (fs : FileSystem) :
    (makeView settings rootNamespace output d : StateM FileSystem _).run fs
      = match fs.readText d.place with
        | .error fault => (.error (.disk fault), fs)
        | .ok text =>
          match View.ofText settings rootNamespace d text with
          | .error e => (.error e, fs)
          | .ok view =>
            match (writeBelow (viewPath settings output d) view.text :
              StateM FileSystem _).run fs with
            | (.error fault, next) => (.error (.disk fault), next)
            | (.ok (), next) => (.ok view.file, next) := by
  rw [makeView, if_neg h, readText_eq_ask, run_ask_bind]
  cases fs.readText d.place with
  | error fault => rfl
  | ok text =>
    simp only
    cases hview : View.ofText settings rootNamespace d text with
    | error e => rfl
    | ok view =>
      simp only
      rw [run_bind, View.output_of_ofText hview, viewPath]
      obtain ⟨answer, next⟩ := (writeBelow (output.join (d.output settings.target.extension))
        view.text : StateM FileSystem _).run fs
      cases answer <;> rfl

theorem run_makeView_refused {d : Document} (h : d.stem ≠ []) {fs : FileSystem} {fault : DiskFault}
    (hread : fs.readText d.place = .error fault) :
    (makeView settings rootNamespace output d : StateM FileSystem _).run fs
      = (.error (.disk fault), fs) := by
  rw [run_makeView settings rootNamespace output h, hread]

variable {fs gs : FileSystem} {d : Document}

/-- **What making a view changes.** -/
theorem makeView_face (h : d.stem ≠ []) (r : Descent fs (viewPath settings output d)) :
    let next := ((makeView settings rootNamespace output d : StateM FileSystem _).run fs).2
    next.workingFolder = fs.workingFolder ∧
      ∀ q, faceAt q next.tree = faceAt q fs.tree ∨
        (faceAt q fs.tree = none ∧ faceAt q next.tree = some emptyFolder ∧
          r.folder <+: q ∧ q <+: r.folder ++ r.front) ∨
        (q = r.place ∧
          (faceAt q fs.tree = none ∨ ∃ old, faceAt q fs.tree = some (.file old)) ∧
          ∃ new, faceAt q next.tree = some (.file new)) := by
  rw [run_makeView settings rootNamespace output h]
  cases fs.readText d.place with
  | error fault => exact ⟨rfl, fun q => Or.inl rfl⟩
  | ok text =>
    simp only
    cases View.ofText settings rootNamespace d text with
    | error e => exact ⟨rfl, fun q => Or.inl rfl⟩
    | ok view =>
      have hface := writeBelow_face r view.text
      simp only at hface ⊢
      generalize (writeBelow (viewPath settings output d) view.text :
        StateM FileSystem _).run fs = written at hface ⊢
      obtain ⟨answer, next⟩ := written
      cases answer <;> exact hface

/-- **Making a view on a disk that has grown comes out the same.** -/
theorem makeView_sameChange (h : d.stem ≠ []) (r : Descent fs (viewPath settings output d))
    {written : Place → Prop} (hgrown : Grown written fs.tree gs.tree)
    (hfolder : gs.workingFolder = fs.workingFolder)
    (hread : gs.readText d.place = fs.readText d.place)
    (hway : ∀ q, r.folder <+: q → q <+: r.folder ++ r.front →
      faceAt q gs.tree = faceAt q fs.tree ∨
        (faceAt q fs.tree = none ∧ faceAt q gs.tree = some emptyFolder))
    (hplace : faceAt r.place gs.tree = faceAt r.place fs.tree) :
    ((makeView settings rootNamespace output d : StateM FileSystem _).run gs).1
        = ((makeView settings rootNamespace output d : StateM FileSystem _).run fs).1 ∧
      SameChange fs.tree
        ((makeView settings rootNamespace output d : StateM FileSystem _).run fs).2.tree
        gs.tree ((makeView settings rootNamespace output d : StateM FileSystem _).run gs).2.tree := by
  rw [run_makeView settings rootNamespace output h, run_makeView settings rootNamespace output h,
    hread]
  cases fs.readText d.place with
  | error fault => exact ⟨rfl, fun q => Or.inl ⟨rfl, rfl⟩⟩
  | ok text =>
    simp only
    cases View.ofText settings rootNamespace d text with
    | error e => exact ⟨rfl, fun q => Or.inl ⟨rfl, rfl⟩⟩
    | ok view =>
      obtain ⟨hanswer, hchange⟩ := writeBelow_sameChange r hgrown hfolder hway hplace view.text
      simp only
      generalize (writeBelow (viewPath settings output d) view.text :
        StateM FileSystem _).run fs = fswritten at hanswer hchange ⊢
      generalize (writeBelow (viewPath settings output d) view.text :
        StateM FileSystem _).run gs = gswritten at hanswer hchange ⊢
      obtain ⟨answer, fsnext⟩ := fswritten
      obtain ⟨answer', gsnext⟩ := gswritten
      obtain rfl : answer' = answer := hanswer
      cases answer' <;> exact ⟨rfl, hchange⟩

end Conversion
end DocViews
