import DocViews.Proofs.Conversion.Task
import DocViews.Proofs.FileSystem.Disks

/-!
# Views are independent of their order

A run makes one view after another, and each of them finds a disk that the others have changed: there
are more folders, and there are their files.  If no two views are in each other's way, and none of
them is where a document is read, it makes no difference.  Every document has the result that it has
alone, and the disk in the end is the one at the beginning with the changes of all documents, each as
if it had been alone (`Conversion.makeViews_independent`).  So the order does not matter, and a
document that fails matters to no other one.

A document that is missing takes some care, because a new folder may be what it is missing.  Mostly
it is refused again, and at most the reason is another one (`SameOutcome`).  But a path that goes into
the new folder and up again may lead to a file now, which does make a difference
(`makeViews_dependent`); `Separate` leaves these paths out.

One step is `makeView_merges`: on a disk that has taken the changes of some documents, the next one
comes out as it does alone.
-/

set_option autoImplicit false

namespace DocViews
namespace Conversion

open Node FileSystem

/-- The place of the view of a document. -/
def viewPlace (settings : Settings) (output : Path) (fs : FileSystem) (d : Document) : Place :=
  (viewPath settings output d).resolve fs.workingFolder

/-- Documents whose views are not in each other's way.  A document without a name has no view. -/
structure ViewsApart (settings : Settings) (output : Path) (fs : FileSystem)
    (documents : List Document) : Prop where
  linkFree : fs.tree.LinkFree
  down : ∀ d ∈ documents, d.stem ≠ [] → LeadsDown fs output (d.output settings.target.extension)
  /-- No two views are at the same place, or one where the other one has a folder. -/
  apart : documents.Pairwise fun d e => d.stem ≠ [] → e.stem ≠ [] →
    Place.Apart (viewPlace settings output fs d) (viewPlace settings output fs e)
  /-- No document is read where a view is written, or below. -/
  clear : ∀ d ∈ documents, ∀ e ∈ documents, d.stem ≠ [] → e.stem ≠ [] →
    ¬ viewPlace settings output fs e <+: d.place.resolve fs.workingFolder

/-- Documents that do not come to be found by the views of the others. -/
structure Separate (settings : Settings) (output : Path) (fs : FileSystem)
    (documents : List Document) : Prop extends ViewsApart settings output fs documents where
  /-- What a document is missing may be a folder on the way to the view of another one.  Then the path
  of the document, read without asking the disk, is not that of a file. -/
  missing : ∀ d ∈ documents, ∀ e ∈ documents, d ≠ e → d.stem ≠ [] → e.stem ≠ [] →
    ∀ gap ∈ fs.missing? d.place, gap <+: viewPlace settings output fs e →
      fs.namesFile d.place = false

variable {settings : Settings} {rootNamespace : Text} {output : Path} {fs : HomeDisk}
  {gs : FileSystem}

theorem Separate.perm {documents order : List Document}
    (h : Separate settings output fs documents) (horder : order.Perm documents) :
    Separate settings output fs order where
  linkFree := h.linkFree
  down := fun d hd => h.down d (horder.mem_iff.1 hd)
  apart := h.apart.perm horder.symm fun hde hestem hdstem => (hde hdstem hestem).symm
  clear := fun d hd e he => h.clear d (horder.mem_iff.1 hd) e (horder.mem_iff.1 he)
  missing := fun d hd e he => h.missing d (horder.mem_iff.1 hd) e (horder.mem_iff.1 he)

theorem Separate.sublist {documents some : List Document}
    (h : Separate settings output fs documents) (hsome : some.Sublist documents) :
    Separate settings output fs some where
  linkFree := h.linkFree
  down := fun d hd => h.down d (hsome.subset hd)
  apart := h.apart.sublist hsome
  clear := fun d hd e he => h.clear d (hsome.subset hd) e (hsome.subset he)
  missing := fun d hd e he => h.missing d (hsome.subset hd) e (hsome.subset he)

/-- The run of one document on the disk at the beginning. -/
def alone (settings : Settings) (rootNamespace : Text) (output : Path) (fs : FileSystem)
    (d : Document) : Except DocumentError GeneratedFile × FileSystem :=
  (makeView settings rootNamespace output d : StateM FileSystem _).run fs

/-- What a document comes to among others: what it comes to alone, unless it is missing; then it is
refused in any case, but the reason may be another one. -/
def SameOutcome (settings : Settings) (rootNamespace : Text) (output : Path) (fs : FileSystem)
    (d : Document) (outcome : Except DocumentError GeneratedFile) : Prop :=
  outcome = (alone settings rootNamespace output fs d).1 ∨
    ((alone settings rootNamespace output fs d).1 = .error (.disk .notFound) ∧
      fs.readText d.place = .error .notFound ∧ ∃ fault, outcome = .error (.disk fault))

theorem SameOutcome.isOk_eq {d : Document} {outcome : Except DocumentError GeneratedFile}
    (h : SameOutcome settings rootNamespace output fs d outcome) :
    outcome.isOk = (alone settings rootNamespace output fs d).1.isOk := by
  rcases h with rfl | ⟨halone, -, fault, rfl⟩
  · rfl
  · rw [halone]
    rfl

/-- **What one document changes alone**: folders on the way to its view, and the view. -/
theorem alone_face {documents : List Document} (h : Separate settings output fs documents)
    {d : Document} (hd : d ∈ documents) (q : Place) :
    faceAt q (alone settings rootNamespace output fs d).2.tree = faceAt q fs.tree ∨
      (d.stem ≠ [] ∧ faceAt q fs.tree = none ∧
        faceAt q (alone settings rootNamespace output fs d).2.tree = some emptyFolder ∧
        Place.Below q (viewPlace settings output fs d)) ∨
      (d.stem ≠ [] ∧ q = viewPlace settings output fs d ∧
        (faceAt q fs.tree = none ∨ ∃ old, faceAt q fs.tree = some (.file old)) ∧
        ∃ new, faceAt q (alone settings rootNamespace output fs d).2.tree = some (.file new)) := by
  by_cases hstem : d.stem = []
  · rw [alone, run_makeView_nameless settings rootNamespace output hstem]
    exact Or.inl rfl
  · obtain ⟨r⟩ := exists_descent h.linkFree fs.home settings d (h.down d hd hstem)
    obtain ⟨-, hface⟩ := makeView_face settings rootNamespace output hstem r
    have hplace : r.place = viewPlace settings output fs d := r.resolve_eq.symm
    rcases hface q with hsame | ⟨hfree, hnew, -, hway⟩ | ⟨hq, hold, hnew⟩
    · exact Or.inl hsame
    · refine Or.inr (Or.inl ⟨hstem, hfree, hnew, ?_⟩)
      rw [← hplace]
      exact ⟨hway.trans (List.prefix_append _ _), fun heq => r.place_not_on_way (heq ▸ hway)⟩
    · exact Or.inr (Or.inr ⟨hstem, hq.trans hplace, hold, hnew⟩)

/-- A change is on the way to a view. -/
theorem prefix_of_changed {documents : List Document} (h : Separate settings output fs documents)
    {d : Document} (hd : d ∈ documents) {q : Place}
    (hq : faceAt q (alone settings rootNamespace output fs d).2.tree ≠ faceAt q fs.tree) :
    d.stem ≠ [] ∧ q <+: viewPlace settings output fs d := by
  rcases alone_face h hd q with hsame | ⟨hstem, -, -, hbelow⟩ | ⟨hstem, hplace, -⟩
  · exact absurd hsame hq
  · exact ⟨hstem, hbelow.1⟩
  · exact ⟨hstem, hplace ▸ List.prefix_rfl⟩

/-- The trees that documents leave alone. -/
def treesAlone (settings : Settings) (rootNamespace : Text) (output : Path) (fs : FileSystem)
    (documents : List Document) : List Node :=
  documents.map fun d => (alone settings rootNamespace output fs d).2.tree

section

variable {early : List Document} (h : Separate settings output fs early)
  (hmerges : Merges fs.tree (treesAlone settings rootNamespace output fs early) gs.tree)

include h hmerges

/-- A disk that has taken the changes of documents has grown. -/
theorem grown_of_merges :
    Grown (fun q => ∃ e ∈ early, e.stem ≠ [] ∧ q = viewPlace settings output fs e)
      fs.tree gs.tree := by
  intro q
  by_cases hchanged : ∃ e ∈ early,
      faceAt q (alone settings rootNamespace output fs e).2.tree ≠ faceAt q fs.tree
  · obtain ⟨e, he, hne⟩ := hchanged
    have htaken := hmerges.taken _ (List.mem_map_of_mem he) q hne
    rw [htaken]
    rcases alone_face h he q with hsame | ⟨-, hfree, hnew, -⟩ | ⟨hstem, hq, hold, hnew⟩
    · exact absurd hsame hne
    · exact Or.inr (Or.inl ⟨hfree, hnew⟩)
    · exact Or.inr (Or.inr ⟨⟨e, he, hstem, hq⟩, hold, hnew⟩)
  · refine Or.inl (hmerges.kept q fun part hpart => ?_)
    obtain ⟨e, he, rfl⟩ := List.mem_map.1 hpart
    by_contra hne
    exact hchanged ⟨e, he, hne⟩

/-- Away from the views and the ways to them there is no change. -/
theorem faceAt_of_merges {q : Place}
    (hq : ∀ e ∈ early, e.stem ≠ [] → ¬ q <+: viewPlace settings output fs e) :
    faceAt q gs.tree = faceAt q fs.tree := by
  refine hmerges.kept q fun part hpart => ?_
  obtain ⟨e, he, rfl⟩ := List.mem_map.1 hpart
  by_contra hne
  obtain ⟨hstem, hway⟩ := prefix_of_changed h he hne
  exact hq e he hstem hway

/-- **An input that keeps clear of the views reads the same, or it was missing and is refused.** -/
theorem readText_of_merges (hfolder : gs.workingFolder = fs.workingFolder) {path : Path}
    (hclear : ∀ e ∈ early, e.stem ≠ [] →
      ¬ viewPlace settings output fs e <+: path.resolve fs.workingFolder)
    (hmissing : ∀ e ∈ early, e.stem ≠ [] → ∀ gap ∈ fs.missing? path,
      gap <+: viewPlace settings output fs e → fs.namesFile path = false) :
    gs.readText path = fs.readText path ∨
      (fs.readText path = .error .notFound ∧ ∃ fault, gs.readText path = .error fault) := by
  have hgrown := grown_of_merges h hmerges
  have hstart : faceAt (fs.startOf path) fs.tree ≠ none := faceAt_startOf_ne_none fs.home path
  have hunwritten : ¬ ∃ e ∈ early, e.stem ≠ [] ∧
      path.resolve fs.workingFolder = viewPlace settings output fs e := by
    rintro ⟨e, he, hstem, hview⟩
    exact hclear e he hstem (hview ▸ List.prefix_rfl)
  cases hfile : fs.namesFile path with
  | false => exact readText_grown_of_not_namesFile hgrown h.linkFree hunwritten hfolder hstart hfile
  | true =>
    -- what a path of a file is missing is not on the way to a view
    refine Or.inl (readText_of_grown hgrown h.linkFree hunwritten hfolder hstart fun gap hgap => ?_)
    rw [faceAt_of_merges h hmerges fun e he hstem hway => by
      rw [hmissing e he hstem gap hgap hway] at hfile
      exact nomatch hfile]
    exact faceAt_of_firstMissing? hgap

end

/-! ## One document after others -/

/-- The view of a document is apart from those of the documents before it. -/
theorem apart_of_mem {early : List Document} {d e : Document}
    (h : Separate settings output fs (early ++ [d])) (he : e ∈ early) (hestem : e.stem ≠ [])
    (hstem : d.stem ≠ []) :
    Place.Apart (viewPlace settings output fs e) (viewPlace settings output fs d) :=
  (List.pairwise_append.1 h.apart).2.2 e he d (List.mem_singleton_self d) hestem hstem

/-- Where two documents change the same place, both make a folder of it. -/
theorem agree_alone {early : List Document} {d : Document}
    (h : Separate settings output fs (early ++ [d])) {e : Document} (he : e ∈ early) {q : Place}
    (hchangede : faceAt q (alone settings rootNamespace output fs e).2.tree ≠ faceAt q fs.tree)
    (hchangedd : faceAt q (alone settings rootNamespace output fs d).2.tree ≠ faceAt q fs.tree) :
    faceAt q (alone settings rootNamespace output fs d).2.tree
      = faceAt q (alone settings rootNamespace output fs e).2.tree := by
  rcases alone_face h (List.mem_append_left _ he) q with
    hsame | ⟨hestem, -, hefolder, hebelow⟩ | ⟨hestem, rfl, -⟩
  · exact absurd hsame hchangede
  · rcases alone_face h (List.mem_append_right _ (List.mem_singleton_self d)) q with
      hsame | ⟨-, -, hdfolder, -⟩ | ⟨hdstem, rfl, -⟩
    · exact absurd hsame hchangedd
    · rw [hefolder, hdfolder]
    · exact absurd hebelow (apart_of_mem h he hestem hdstem).2.2
  · obtain ⟨hdstem, hway⟩ := prefix_of_changed h
      (List.mem_append_right _ (List.mem_singleton_self d)) hchangedd
    exact absurd hway (apart_of_mem h he hestem hdstem).not_above

section

variable {early : List Document} {d : Document} (h : Separate settings output fs (early ++ [d]))
  (hmerges : Merges fs.tree (treesAlone settings rootNamespace output fs early) gs.tree)

include h hmerges

/-- The changes of a document join those of the documents before it. -/
theorem merges_concat {t : Node}
    (hchange : SameChange fs.tree (alone settings rootNamespace output fs d).2.tree gs.tree t) :
    Merges fs.tree (treesAlone settings rootNamespace output fs (early ++ [d])) t := by
  rw [treesAlone, List.map_append, List.map_singleton]
  refine hmerges.concat hchange fun other hother place hne hnew => ?_
  obtain ⟨e, he, rfl⟩ := List.mem_map.1 hother
  exact agree_alone h he hne hnew

/-- A document that changes nothing alone adds no change. -/
theorem merges_unchanged (halone : (alone settings rootNamespace output fs d).2 = fs) :
    Merges fs.tree (treesAlone settings rootNamespace output fs (early ++ [d])) gs.tree :=
  merges_concat h hmerges fun _ => Or.inl ⟨by rw [halone], rfl⟩

/-- A document that reads the same comes out as it does alone: nothing of the documents before it is
in the way of its view. -/
theorem makeView_merges_of_read (hfolder : gs.workingFolder = fs.workingFolder)
    (hstem : d.stem ≠ []) (hread : gs.readText d.place = fs.readText d.place) :
    let next := (makeView settings rootNamespace output d : StateM FileSystem _).run gs
    next.1 = (alone settings rootNamespace output fs d).1 ∧
      next.2.workingFolder = fs.workingFolder ∧
      Merges fs.tree (treesAlone settings rootNamespace output fs (early ++ [d])) next.2.tree := by
  have hd : d ∈ early ++ [d] := List.mem_append_right _ (List.mem_singleton_self d)
  have hearly : Separate settings output fs early := h.sublist (List.sublist_append_left early [d])
  obtain ⟨r⟩ := exists_descent h.linkFree fs.home settings d (h.down d hd hstem)
  have hplace : r.place = viewPlace settings output fs d := r.resolve_eq.symm
  have hgrown := grown_of_merges hearly hmerges
  have hway : ∀ q, r.folder <+: q → q <+: r.folder ++ r.front →
      faceAt q gs.tree = faceAt q fs.tree ∨
        (faceAt q fs.tree = none ∧ faceAt q gs.tree = some emptyFolder) := by
    intro q _ hq
    rcases hgrown q with hsame | hfolder | ⟨⟨e, he, hestem, rfl⟩, -⟩
    · exact Or.inl hsame
    · exact Or.inr hfolder
    · refine absurd ?_ (apart_of_mem h he hestem hstem).not_above
      rw [← hplace]
      exact hq.trans (List.prefix_append _ _)
  have hfree : faceAt r.place gs.tree = faceAt r.place fs.tree := by
    rw [hplace]
    exact faceAt_of_merges hearly hmerges fun e he hestem =>
      (apart_of_mem h he hestem hstem).symm.not_above
  obtain ⟨hanswer, hchange⟩ :=
    makeView_sameChange settings rootNamespace output hstem r hgrown hfolder hread hway hfree
  have hworking := (makeView_face settings rootNamespace output hstem (r.grown hgrown hfolder)).1
  exact ⟨hanswer, hworking.trans hfolder, merges_concat h hmerges hchange⟩

/-- **A document after others comes out as it does alone.** -/
theorem makeView_merges (hfolder : gs.workingFolder = fs.workingFolder) :
    let next := (makeView settings rootNamespace output d : StateM FileSystem _).run gs
    SameOutcome settings rootNamespace output fs d next.1 ∧
      next.2.workingFolder = fs.workingFolder ∧
      Merges fs.tree (treesAlone settings rootNamespace output fs (early ++ [d])) next.2.tree := by
  have hd : d ∈ early ++ [d] := List.mem_append_right _ (List.mem_singleton_self d)
  have hearly : Separate settings output fs early := h.sublist (List.sublist_append_left early [d])
  intro next
  by_cases hstem : d.stem = []
  · have hnext : next = (.error .emptyName, gs) :=
      run_makeView_nameless settings rootNamespace output hstem gs
    have halone : alone settings rootNamespace output fs d = (.error .emptyName, ↑fs) :=
      run_makeView_nameless settings rootNamespace output hstem fs
    rw [hnext]
    exact ⟨Or.inl (by rw [halone]), hfolder, merges_unchanged h hmerges (by rw [halone])⟩
  · have hread := readText_of_merges hearly hmerges hfolder
      (fun e he hestem => h.clear d hd e (List.mem_append_left _ he) hstem hestem)
      (fun e he hestem => h.missing d hd e (List.mem_append_left _ he)
        (fun heq => (apart_of_mem h he hestem hstem).1 (heq ▸ rfl)) hstem hestem)
    rcases hread with hread | ⟨hmissing, fault, hrefused⟩
    · obtain ⟨hanswer, hworking, hmerged⟩ := makeView_merges_of_read h hmerges hfolder hstem hread
      exact ⟨Or.inl hanswer, hworking, hmerged⟩
    · have hnext : next = (.error (.disk fault), gs) :=
        run_makeView_refused settings rootNamespace output hstem hrefused
      have halone : alone settings rootNamespace output fs d = (.error (.disk .notFound), ↑fs) :=
        run_makeView_refused settings rootNamespace output hstem hmissing
      rw [hnext]
      exact ⟨Or.inr ⟨by rw [halone], hmissing, fault, rfl⟩, hfolder,
        merges_unchanged h hmerges (by rw [halone])⟩

end

/-! ## All documents -/

/-- The induction is on the documents that are still to come; those before have left their changes
on the disk. -/
theorem makeViews_merges {early late : List Document}
    (h : Separate settings output fs (early ++ late)) (hfolder : gs.workingFolder = fs.workingFolder)
    (hmerges : Merges fs.tree (treesAlone settings rootNamespace output fs early) gs.tree) :
    let next := (makeViews settings rootNamespace output late : StateM FileSystem _).run gs
    List.Forall₂ (fun d result => result.1 = d ∧
        SameOutcome settings rootNamespace output fs d result.2) late next.1 ∧
      next.2.workingFolder = fs.workingFolder ∧
      Merges fs.tree (treesAlone settings rootNamespace output fs (early ++ late))
        next.2.tree := by
  induction late generalizing early gs with
  | nil =>
    rw [List.append_nil]
    exact ⟨.nil, hfolder, hmerges⟩
  | cons d rest ih =>
    have hsplit : early ++ d :: rest = early ++ [d] ++ rest := by simp
    rw [hsplit] at h ⊢
    obtain ⟨hanswer, hfolder', hmerges'⟩ :=
      makeView_merges (h.sublist (List.sublist_append_left _ rest)) hmerges hfolder
    obtain ⟨hanswers, hlast⟩ := ih h hfolder' hmerges'
    exact ⟨.cons ⟨rfl, hanswer⟩ hanswers, hlast⟩

/-- **Views are independent of their order and of each other.**  In every order each document has
the result that it has alone, and the disk in the end is the one at the beginning with the changes of
each document alone; so it is the same one for all orders. -/
theorem makeViews_independent {documents order : List Document}
    (h : Separate settings output fs documents) (horder : order.Perm documents) :
    let next := (makeViews settings rootNamespace output order : StateM FileSystem _).run fs
    List.Forall₂ (fun d result => result.1 = d ∧
        SameOutcome settings rootNamespace output fs d result.2) order next.1 ∧
      next.2.workingFolder = fs.workingFolder ∧
      Merges fs.tree (treesAlone settings rootNamespace output fs documents) next.2.tree ∧
      ∀ other : List Document, other.Perm documents →
        Alike ((makeViews settings rootNamespace output other : StateM FileSystem _).run fs).2.tree
          next.2.tree := by
  have hmerges : ∀ other : List Document, other.Perm documents →
      Merges fs.tree (treesAlone settings rootNamespace output fs documents)
        ((makeViews settings rootNamespace output other : StateM FileSystem _).run fs).2.tree := by
    intro other hother
    obtain ⟨-, -, hmerged⟩ := makeViews_merges
      (show Separate settings output fs ([] ++ other) from h.perm hother) rfl (.nil fs.tree)
    exact hmerged.of_mem_iff fun part => (hother.map _).mem_iff
  obtain ⟨hanswers, hfolder, -⟩ := makeViews_merges
    (show Separate settings output fs ([] ++ order) from h.perm horder) rfl (.nil fs.tree)
  exact ⟨hanswers, hfolder, hmerges order horder, fun other hother =>
    (hmerges other hother).alike (hmerges order horder) fun _ => Iff.rfl⟩

/-- The documents that succeed and those that fail are the same ones. -/
theorem isOk_of_sameOutcome {documents : List Document}
    {results : List (Document × Except DocumentError GeneratedFile)}
    (h : List.Forall₂ (fun d result => result.1 = d ∧
      SameOutcome settings rootNamespace output fs d result.2) documents results) :
    results.map (fun result => result.2.isOk)
      = documents.map fun d => (alone settings rootNamespace output fs d).1.isOk := by
  induction h with
  | nil => rfl
  | cons hresult _ ih => rw [List.map_cons, List.map_cons, hresult.2.isOk_eq, ih]

/-- A disk with pages, a document that is none, and a page whose view has a file in its way. -/
def mixedDisk : HomeDisk where
  tree := .folder [
    ("Docs".toList, .folder [
      ("Broken.md".toList, .file (.text "---\ntitle: [\n---\n".toList)),
      ("Intro.md".toList, .file (.text "# Hi".toList)),
      ("Old".toList, .folder [("Notes.md".toList, .file (.text "# Notes".toList))]),
      ("Sub".toList, .folder [("Start.md".toList, .file (.text "# Start".toList))])]),
    ("Views".toList, .folder [("Old".toList, .file (.text "kept".toList))])]
  workingFolder := []
  home := rfl

theorem mixedDisk_linkFree : mixedDisk.tree.LinkFree :=
  .cons (.cons (.file _) (.cons (.file _) (.cons (.cons (.file _) .nil)
    (.cons (.cons (.file _) .nil) .nil)))) (.cons (.cons (.file _) .nil) .nil)

def mixedDocument (root path : String) : Document :=
  Document.describe {} ⟨['/']⟩ ⟨root.toList⟩ ⟨root.toList ++ '/' :: path.toList⟩

/-- The documents that fail change nothing for those that do not, although they come first.  One of
them is missing, and so is a folder on its way that comes with the view of another one. -/
theorem makeViews_independent_mixed :
    Separate {} ⟨"Views".toList⟩ mixedDisk
        [mixedDocument "Docs" "Intro.md", mixedDocument "Docs" "Sub/Start.md",
          mixedDocument "Docs" "Broken.md", mixedDocument "Docs" "Old/Notes.md",
          mixedDocument "Views" "Sub/Lost.md"] ∧
      (((makeViews {} "App".toList ⟨"Views".toList⟩
          [mixedDocument "Docs" "Old/Notes.md", mixedDocument "Docs" "Broken.md",
            mixedDocument "Docs" "Sub/Start.md", mixedDocument "Views" "Sub/Lost.md",
            mixedDocument "Docs" "Intro.md"] :
          StateM FileSystem _).run mixedDisk).1.map fun result => result.2.isOk)
        = [false, false, true, false, true] := by
  have hseparate : Separate {} ⟨"Views".toList⟩ mixedDisk
      [mixedDocument "Docs" "Intro.md", mixedDocument "Docs" "Sub/Start.md",
        mixedDocument "Docs" "Broken.md", mixedDocument "Docs" "Old/Notes.md",
        mixedDocument "Views" "Sub/Lost.md"] :=
    { linkFree := mixedDisk_linkFree
      down := by decide +kernel
      apart := by decide +kernel
      clear := by decide +kernel
      missing := by decide +kernel }
  refine ⟨hseparate, ?_⟩
  obtain ⟨hresults, -⟩ := makeViews_independent hseparate
    (show List.Perm [mixedDocument "Docs" "Old/Notes.md", mixedDocument "Docs" "Broken.md",
      mixedDocument "Docs" "Sub/Start.md", mixedDocument "Views" "Sub/Lost.md",
      mixedDocument "Docs" "Intro.md"] _ by decide +kernel)
  rw [isOk_of_sameOutcome hresults]
  decide +kernel

/-- A path that goes into a folder and up again, when the folder comes with the view of another
document: the document is missing alone, and has a view after the other one.  Where the path is that
of the folder, it is refused for another reason. -/
theorem makeViews_dependent :
    let start := mixedDocument "Docs" "Sub/Start.md"
    let detour := mixedDocument "Views/Sub/../../Docs" "Intro.md"
    let folder := mixedDocument "Views" "Sub"
    let make (documents : List Document) :=
      (makeViews {} "App".toList ⟨"Views".toList⟩ documents : StateM FileSystem _).run mixedDisk
    ViewsApart {} ⟨"Views".toList⟩ mixedDisk [start, detour, folder] ∧
      (alone {} "App".toList ⟨"Views".toList⟩ mixedDisk detour).1 = .error (.disk .notFound) ∧
      (alone {} "App".toList ⟨"Views".toList⟩ mixedDisk folder).1 = .error (.disk .notFound) ∧
      (make [start, detour, folder]).1.map (fun result => result.2.map GeneratedFile.output)
        = [.ok ⟨"Sub/Start.g.cs".toList⟩, .ok ⟨"Intro.g.cs".toList⟩, .error (.disk .isAFolder)] ∧
      ¬ Alike (make [detour, start, folder]).2.tree (make [start, detour, folder]).2.tree := by
  intro start detour folder make
  refine ⟨{
    linkFree := mixedDisk_linkFree
    down := by decide +kernel
    apart := by decide +kernel
    clear := by decide +kernel }, by decide +kernel, by decide +kernel, by decide +kernel, ?_⟩
  intro halike
  have hview := congrArg Option.isSome (halike ["Views".toList, "Intro.g.cs".toList])
  revert hview
  decide +kernel

end Conversion
end DocViews
