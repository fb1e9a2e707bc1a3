import DocViews.Proofs.FileSystem.Follow

/-!
# Trees that grow

A run makes folders where there was nothing, and writes files.  `Node.Grown` says that a tree has
come out of another one in this way: folders and links are still there, and so are files, which may
hold something else where something was written.

A path that is followed on the grown tree leads to the same node as before, if it led to one; a free
name may be taken now; and what was refused is refused for the same reason, unless the reason was
that something was missing (`FileSystem.spot_grown`).
-/

set_option autoImplicit false

namespace DocViews

open Node

/-! ## Growth -/

/-- A tree that has come out of another one by making folders at free places and by writing files at
some places. -/
def Node.Grown (written : Place → Prop) (s t : Node) : Prop :=
  ∀ place, faceAt place t = faceAt place s ∨
    (faceAt place s = none ∧ faceAt place t = some emptyFolder) ∨
    (written place ∧ (faceAt place s = none ∨ ∃ old, faceAt place s = some (.file old)) ∧
      ∃ new, faceAt place t = some (.file new))

namespace Node.Grown

variable {written : Place → Prop} {s t u : Node}

theorem refl (written : Place → Prop) (s : Node) : Grown written s s :=
  fun _ => Or.inl rfl

theorem mono {more : Place → Prop} (h : Grown written s t) (hmore : ∀ q, written q → more q) :
    Grown more s t :=
  fun q => (h q).imp_right fun hnew => hnew.imp_right fun hfile => ⟨hmore q hfile.1, hfile.2⟩

/-- Folders stay. -/
theorem folder (h : Grown written s t) {place : Place}
    (hs : faceAt place s = some emptyFolder) : faceAt place t = some emptyFolder := by
  rcases h place with ht | ⟨ht, -⟩ | ⟨-, ht | ⟨old, ht⟩, -⟩
  · rw [ht, hs]
  · exact absurd (hs.symm.trans ht) (by simp)
  · exact absurd (hs.symm.trans ht) (by simp)
  · exact absurd (Option.some.inj (hs.symm.trans ht)) (by simp [emptyFolder])

/-- What is there stays, in one form or another. -/
theorem there (h : Grown written s t) {place : Place} (hs : faceAt place s ≠ none) :
    faceAt place t ≠ none := by
  rcases h place with ht | ⟨hnone, -⟩ | ⟨-, -, new, ht⟩
  · rwa [ht]
  · exact absurd hnone hs
  · rw [ht]
    exact Option.some_ne_none _

/-- What is there and is no folder does not become one. -/
theorem ne_folder (h : Grown written s t) {place : Place} (hnone : faceAt place s ≠ none)
    (hs : faceAt place s ≠ some emptyFolder) : faceAt place t ≠ some emptyFolder := by
  rcases h place with ht | ⟨hs', -⟩ | ⟨-, -, new, ht⟩
  · rwa [ht]
  · exact absurd hs' hnone
  · rw [ht]
    exact fun hface => absurd (Option.some.inj hface) (by simp [emptyFolder])

theorem link (h : Grown written s t) {place : Place} {target : Path}
    (hs : faceAt place s = some (.link target)) : faceAt place t = some (.link target) := by
  rcases h place with ht | ⟨ht, -⟩ | ⟨-, ht | ⟨old, ht⟩, -⟩
  · rw [ht, hs]
  · exact absurd (hs.symm.trans ht) (by simp)
  · exact absurd (hs.symm.trans ht) (by simp)
  · exact absurd (Option.some.inj (hs.symm.trans ht)) (by simp)

/-- A file stays a file. -/
theorem file (h : Grown written s t) {place : Place} {content : FileContent}
    (hs : faceAt place s = some (.file content)) : ∃ new, faceAt place t = some (.file new) := by
  rcases h place with ht | ⟨ht, -⟩ | ⟨-, -, hnew⟩
  · exact ⟨content, by rw [ht, hs]⟩
  · exact absurd (hs.symm.trans ht) (by simp)
  · exact hnew

/-- What has become a file was one, if it was there. -/
theorem of_file (h : Grown written s t) {place : Place} (hs : faceAt place s ≠ none)
    {content : FileContent} (ht : faceAt place t = some (.file content)) :
    ∃ old, faceAt place s = some (.file old) := by
  rcases h place with hsame | ⟨hnone, -⟩ | ⟨-, hold, -⟩
  · exact ⟨content, by rw [← hsame, ht]⟩
  · exact absurd hnone hs
  · exact hold.resolve_left hs

/-- A new node is a folder or a file. -/
theorem new (h : Grown written s t) {place : Place} (hs : faceAt place s = none) :
    faceAt place t = none ∨ faceAt place t = some emptyFolder ∨
      ∃ content, faceAt place t = some (.file content) := by
  rcases h place with ht | ⟨-, ht⟩ | ⟨-, -, ht⟩
  · exact Or.inl (by rw [ht, hs])
  · exact Or.inr (Or.inl ht)
  · exact Or.inr (Or.inr ht)

/-- What has grown twice has grown. -/
theorem trans (h : Grown written s t) (hnext : Grown written t u) : Grown written s u := by
  intro place
  rcases hnext place with hsame | ⟨hfree, hnew⟩ | ⟨hwritten, hold, hnew⟩
  · rw [hsame]
    exact h place
  · -- a place that was free before the second time was so before the first
    rcases h place with hsame | ⟨-, hfolder⟩ | ⟨-, -, content, hfile⟩
    · exact Or.inr (Or.inl ⟨hsame ▸ hfree, hnew⟩)
    · exact absurd (hfolder.symm.trans hfree) (by simp)
    · exact absurd (hfile.symm.trans hfree) (by simp)
  · refine Or.inr (Or.inr ⟨hwritten, ?_, hnew⟩)
    rcases h place with hsame | ⟨-, hfolder⟩ | ⟨-, hold', -⟩
    · rwa [hsame] at hold
    · rw [hfolder] at hold
      rcases hold with hfree | ⟨old, hfile⟩
      · exact absurd hfree (by simp)
      · exact absurd (Option.some.inj hfile) (by simp [emptyFolder])
    · exact hold'

/-- Where nothing is written, the same files are there. -/
theorem get?_eq_file_iff (h : Grown written s t) {place : Place} (hplace : ¬ written place)
    (content : FileContent) :
    get? place t = some (.file content) ↔ get? place s = some (.file content) := by
  rw [← faceAt_eq_file_iff, ← faceAt_eq_file_iff]
  rcases h place with hsame | ⟨hfree, hnew⟩ | ⟨hwritten, -⟩
  · rw [hsame]
  · rw [hfree, hnew]
    exact ⟨fun h => Node.noConfusion (Option.some.inj h), fun h => absurd h (by simp)⟩
  · exact absurd hwritten hplace

theorem linkFree (h : Grown written s t) (hs : s.LinkFree) : t.LinkFree := by
  rw [linkFree_iff] at hs ⊢
  intro place target ht
  rcases h place with heq | ⟨-, heq⟩ | ⟨-, -, new, heq⟩
  · exact hs place target (heq ▸ ht)
  · exact absurd (Option.some.inj (heq.symm.trans ht)) (by simp [emptyFolder])
  · exact absurd (Option.some.inj (heq.symm.trans ht)) (by simp)

end Node.Grown

namespace FileSystem

/-- What an answer becomes when the tree has grown to `t`. -/
inductive Outlives (t : Node) : Except DiskFault Spot → Except DiskFault Spot → Prop
  | taken (place : Place) : Outlives t (.ok (.taken place)) (.ok (.taken place))
  | free {folder : Place} {name : Text} (h : faceAt (folder ++ [name]) t = none) :
    Outlives t (.ok (.free folder name)) (.ok (.free folder name))
  | filled {folder : Place} {name : Text} (h : faceAt (folder ++ [name]) t ≠ none) :
    Outlives t (.ok (.free folder name)) (.ok (.taken (folder ++ [name])))
  | refused (fault : DiskFault) : Outlives t (.error fault) (.error fault)
  | missing (after : Except DiskFault Spot) : Outlives t (.error .notFound) after

section

variable {written : Place → Prop} {s t : Node} {followLast : Bool}

/-- The induction is on the segments, and the place that is reached is there in both trees. -/
theorem follow_grown (h : Grown written s t)
    {onLink onLink' : List Text → Place → Except DiskFault Spot}
    (honLink : ∀ segments place, faceAt place s ≠ none →
      Outlives t (onLink segments place) (onLink' segments place))
    (segments : List Text) {place : Place} (hplace : faceAt place s ≠ none) :
    Outlives t (follow s followLast onLink segments place)
      (follow t followLast onLink' segments place) := by
  induction segments generalizing place with
  | nil => exact .taken place
  | cons segment rest ih =>
    by_cases hs : faceAt place s = some emptyFolder
    · have ht := h.folder hs
      rcases Path.segment_cases segment with hsilent | rfl | hname
      · rw [follow_silent hs hsilent, follow_silent ht hsilent]
        exact ih hplace
      · rw [follow_parent hs, follow_parent ht]
        exact ih (faceAt_dropLast_ne_none hplace)
      · rw [follow_name hs hname, follow_name ht hname]
        by_cases hlong : maxNameSize < Text.byteSize segment
        · rw [if_pos hlong, if_pos hlong]
          exact .refused _
        · rw [if_neg hlong, if_neg hlong]
          cases hface : faceAt (place ++ [segment]) s with
          | none =>
            simp only
            split
            · next hrest =>
              subst hrest
              rcases h.new hface with hnew | hnew | ⟨content, hnew⟩
              · rw [hnew]
                exact .free hnew
              · rw [hnew]
                exact .filled (hnew ▸ Option.some_ne_none _)
              · rw [hnew]
                exact .filled (hnew ▸ Option.some_ne_none _)
            · exact .missing _
          | some node =>
            have hnext : faceAt (place ++ [segment]) s ≠ none := hface ▸ Option.some_ne_none node
            cases node with
            | folder entries =>
              obtain rfl := eq_nil_of_faceAt_eq_folder hface
              rw [h.folder hface]
              exact ih hnext
            | file content =>
              obtain ⟨new, hnew⟩ := h.file hface
              rw [hnew]
              exact ih hnext
            | link target =>
              rw [h.link hface]
              simp only
              split
              · exact .taken _
              · refine honLink _ _ ?_
                split
                · exact Option.some_ne_none _
                · exact hplace
    · rw [follow_of_ne hs, follow_of_ne (h.ne_folder hplace hs)]
      exact .refused _

theorem followLinks_grown (h : Grown written s t) (n : Nat) (segments : List Text) {place : Place}
    (hplace : faceAt place s ≠ none) :
    Outlives t (followLinks s followLast n segments place)
      (followLinks t followLast n segments place) := by
  induction n generalizing segments place with
  | zero => exact follow_grown h (fun _ _ _ => .refused _) segments hplace
  | succ n ih => exact follow_grown h (fun segments _ hp => ih segments hp) segments hplace

end

/-- **What a path leads to, after the disk has grown.** -/
theorem spot_grown {written : Place → Prop} {fs gs : FileSystem}
    (h : Grown written fs.tree gs.tree) (hfolder : gs.workingFolder = fs.workingFolder)
    (followLast : Bool) (path : Path) (hstart : faceAt (fs.startOf path) fs.tree ≠ none) :
    Outlives gs.tree (fs.spot followLast path) (gs.spot followLast path) := by
  rw [spot, spot, hfolder]
  split
  · exact .refused _
  · split
    · exact .refused _
    · split
      · exact .refused _
      · exact followLinks_grown h maxLinks path.segments hstart

section

variable {written : Place → Prop} {fs gs : FileSystem} {followLast : Bool} {path : Path}

/-- A path that leads somewhere starts from what is there. -/
theorem spot_ok_grown (h : Grown written fs.tree gs.tree)
    (hfolder : gs.workingFolder = fs.workingFolder) {spot : Spot}
    (hs : fs.spot followLast path = .ok spot) :
    Outlives gs.tree (.ok spot) (gs.spot followLast path) := by
  rw [← hs]
  exact spot_grown h hfolder followLast path (faceAt_startOf hs ▸ Option.some_ne_none _)

/-- A path that leads to a node still does. -/
theorem spot_taken_grown (h : Grown written fs.tree gs.tree)
    (hfolder : gs.workingFolder = fs.workingFolder) {place : Place}
    (hs : fs.spot followLast path = .ok (.taken place)) :
    gs.spot followLast path = .ok (.taken place) := by
  have hgrown := spot_ok_grown h hfolder hs
  generalize gs.spot followLast path = after at hgrown
  cases hgrown
  rfl

/-- A path that leads to a free name leads to what has been put there. -/
theorem spot_free_grown (h : Grown written fs.tree gs.tree)
    (hfolder : gs.workingFolder = fs.workingFolder) {folder : Place} {name : Text}
    (hs : fs.spot followLast path = .ok (.free folder name)) :
    gs.spot followLast path
      = if faceAt (folder ++ [name]) gs.tree = none then .ok (.free folder name)
        else .ok (.taken (folder ++ [name])) := by
  have hgrown := spot_ok_grown h hfolder hs
  generalize gs.spot followLast path = after at hgrown
  cases hgrown with
  | free hfree => rw [if_pos hfree]
  | filled hfilled => rw [if_neg hfilled]

/-- A path that leads to a folder still does. -/
theorem isFolder_grown (h : Grown written fs.tree gs.tree)
    (hfolder : gs.workingFolder = fs.workingFolder) (hs : fs.isFolder path = true) :
    gs.isFolder path = true := by
  obtain ⟨place, entries, hspot, hget⟩ := isFolder_iff.1 hs
  obtain ⟨more, hmore⟩ := faceAt_eq_emptyFolder_iff.1
    (h.folder (faceAt_eq_emptyFolder_iff.2 ⟨entries, hget⟩))
  exact isFolder_iff.2 ⟨place, more, spot_taken_grown h hfolder hspot, hmore⟩

/-- A path that leads to a file still does. -/
theorem isFile_grown (h : Grown written fs.tree gs.tree)
    (hfolder : gs.workingFolder = fs.workingFolder) (hs : fs.isFile path = true) :
    gs.isFile path = true := by
  obtain ⟨place, content, hspot, hget⟩ := isFile_iff.1 hs
  obtain ⟨new, hnew⟩ := h.file (faceAt_eq_file_iff.2 hget)
  exact isFile_iff.2 ⟨place, new, spot_taken_grown h hfolder hspot, faceAt_eq_file_iff.1 hnew⟩

/-- A path that names no file does not come to lead to one, if nothing is written where it leads
to. -/
theorem isFile_eq_false_of_grown (h : Grown written fs.tree gs.tree) (hlinks : fs.tree.LinkFree)
    (hfolder : gs.workingFolder = fs.workingFolder)
    (hclear : ¬ written (path.resolve fs.workingFolder)) (hfile : fs.namesFile path = false) :
    gs.isFile path = false := by
  rw [← Bool.not_eq_true, isFile_iff]
  rintro ⟨place, content, hspot, hget⟩
  have hplace : place = path.resolve fs.workingFolder :=
    hfolder ▸ spot_place (h.linkFree hlinks) hspot
  rw [h.get?_eq_file_iff (hplace ▸ hclear)] at hget
  rw [namesFile, ← hplace, hget] at hfile
  exact nomatch hfile

end

end FileSystem
end DocViews
