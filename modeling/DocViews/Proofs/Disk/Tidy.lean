import DocViews.Proofs.Conversion.Plan
import DocViews.Proofs.Disk.Filling
import DocViews.Proofs.FileSystem.Tidy
import Mathlib.Logic.Relation

/-!
# Disks stay tidy

A disk changes in steps: a folder or a link is made, a file is written, or something is removed
(`FileSystem.Step`).  A step shows at one place, or it clears one with everything below
(`Step.face`).  A run takes such steps only (`Conversion.stepwise_run`), and between runs there may
be any others.

A new name is a segment of a path that says a name, and it is free where it goes.  So every step
keeps a tidy disk tidy, and a disk that has once been empty is tidy (`isTidy_of_steps`): what is shown
of tidy disks holds again for the next run.
-/

set_option autoImplicit false

namespace DocViews

open DocViews.Path

namespace Node

/-! ## Changed trees -/

section

variable {name : Text} {node : Node} {entries : List (Text × Node)}

theorem entriesTidy_set (h : entriesTidy entries = true) (hname : IsName name)
    (hnode : node.isTidy = true) : entriesTidy (Keyed.set name node entries) = true := by
  induction entries with
  | nil => exact entriesTidy_cons.2 ⟨hname, rfl, hnode, rfl⟩
  | cons entry rest ih =>
    obtain ⟨first, child⟩ := entry
    obtain ⟨hfirst, hfree, hchild, hrest⟩ := entriesTidy_cons.1 h
    rw [Keyed.set]
    split
    · next heq =>
      subst heq
      exact entriesTidy_cons.2 ⟨hname, hfree, hnode, hrest⟩
    · next hne =>
      refine entriesTidy_cons.2 ⟨hfirst, ?_, hchild, ih hrest⟩
      rw [Keyed.lookup_set, if_neg hne, hfree]

/-- A tidy tree with a tidy node at the end of names is tidy. -/
theorem isTidy_put {new tree : Node} {place : Place} (h : tree.isTidy = true)
    (hnew : new.isTidy = true) (hplace : ∀ name ∈ place, IsName name) :
    (put new place tree).isTidy = true := by
  induction place generalizing tree with
  | nil => exact hnew
  | cons name rest ih =>
    rw [List.forall_mem_cons] at hplace
    cases tree with
    | file content => exact h
    | link target => exact h
    | folder entries =>
      refine entriesTidy_set h hplace.1 (ih ?_ hplace.2)
      cases hlookup : entries.lookup name with
      | none => rfl
      | some child => exact (tidy_of_lookup h hlookup).2

/-- A tidy tree with less in it is tidy. -/
theorem isTidy_erase {tree : Node} {place : Place} (h : tree.isTidy = true) :
    (erase place tree).isTidy = true := by
  induction place generalizing tree with
  | nil => cases tree <;> exact h
  | cons name rest ih =>
    cases tree with
    | file content => cases rest <;> exact h
    | link target => cases rest <;> exact h
    | folder entries =>
      obtain ⟨hnodup, hentries⟩ := entriesTidy_iff.1 h
      cases rest with
      | nil =>
        refine entriesTidy_iff.2 ⟨hnodup.sublist (List.filter_sublist.map Prod.fst), ?_⟩
        exact fun entry hentry => hentries entry (List.mem_of_mem_filter hentry)
      | cons next more =>
        rw [erase]
        · cases hchild : entries.lookup name with
          | none => exact h
          | some child =>
            obtain ⟨hname, htidy⟩ := tidy_of_lookup h hchild
            exact entriesTidy_set h hname (ih htidy)
        · exact List.cons_ne_nil next more

end
end Node

namespace FileSystem

open Node

/-! ## New names -/

/-- A free name is a segment that says a name.  The induction is on the segments. -/
theorem isName_of_follow {tree : Node} {followLast : Bool}
    {onLink : List Text → Place → Except DiskFault Spot}
    (honLink : ∀ {segments place above name}, (∀ segment ∈ segments, '/' ∉ segment) →
      onLink segments place = .ok (.free above name) → IsName name)
    {segments : List Text} {place above : Place} {name : Text}
    (hslash : ∀ segment ∈ segments, '/' ∉ segment)
    (h : follow tree followLast onLink segments place = .ok (.free above name)) :
    IsName name := by
  induction segments generalizing place with
  | nil => exact nomatch h
  | cons segment rest ih =>
    rw [List.forall_mem_cons] at hslash
    by_cases hfolder : faceAt place tree = some emptyFolder
    · rcases Path.segment_cases segment with hsilent | rfl | hname
      · rw [follow_silent hfolder hsilent] at h
        exact ih hslash.2 h
      · rw [follow_parent hfolder] at h
        exact ih hslash.2 h
      · rw [follow_name hfolder hname] at h
        split at h
        · exact absurd h (by simp)
        · cases hface : faceAt (place ++ [segment]) tree with
          | none =>
            rw [hface] at h
            simp only at h
            split at h
            · obtain ⟨-, rfl⟩ := Spot.free.inj (Except.ok.inj h)
              exact isName_of_component? hname hslash.1
            · exact absurd h (by simp)
          | some node =>
            rw [hface] at h
            cases node with
            | folder entries => exact ih hslash.2 h
            | file content => exact ih hslash.2 h
            | link target =>
              simp only at h
              split at h
              · exact absurd h (by simp)
              · refine honLink (List.forall_mem_append.2 ⟨?_, hslash.2⟩) h
                exact fun piece hpiece => notMem_of_mem_segments hpiece
    · rw [follow_of_ne hfolder] at h
      exact absurd h (by simp)

theorem isName_of_followLinks {tree : Node} {followLast : Bool} (n : Nat) {segments : List Text}
    {place above : Place} {name : Text} (hslash : ∀ segment ∈ segments, '/' ∉ segment)
    (h : followLinks tree followLast n segments place = .ok (.free above name)) :
    IsName name := by
  induction n generalizing segments place above name with
  | zero => exact isName_of_follow (fun _ hlink => absurd hlink (by simp)) hslash h
  | succ n ih => exact isName_of_follow (fun hslash hlink => ih hslash hlink) hslash h

/-- The place of a free name in a tidy tree can be written as a path. -/
theorem isName_of_spot_free {fs : FileSystem} (htidy : fs.tree.isTidy = true) {followLast : Bool}
    {path : Path} {above : Place} {name : Text}
    (h : fs.spot followLast path = .ok (.free above name)) :
    ∀ segment ∈ above ++ [name], IsName segment := by
  have hname : IsName name :=
    isName_of_followLinks maxLinks (fun _ hsegment => notMem_of_mem_segments hsegment)
      (followLinks_of_spot h)
  obtain ⟨entries, habove⟩ := faceAt_eq_emptyFolder_iff.1 (spot_fits h).1
  intro segment hsegment
  rcases List.mem_append.1 hsegment with hfront | hlast
  · exact (tidy_of_get? htidy habove).1 segment hfront
  · rw [List.mem_singleton.1 hlast]
    exact hname

/-! ## Steps -/

/-- One change of a disk. -/
inductive Step (fs next : FileSystem) : Prop
  | makeFolder (path : Path) (h : fs.makeFolder path = .ok next)
  | link (path target : Path) (h : fs.link path target = .ok next)
  | write (path : Path) (content : FileContent) (h : fs.write path content = .ok next)
  | remove (path : Path) (h : fs.remove path = .ok next)

section

variable {fs next : FileSystem} {path : Path} {node : Node}

theorem exists_spot_of_make (h : fs.make node path = .ok next) :
    ∃ above name, fs.entrySpot path = .ok (.free above name) ∧
      next = fs.withNode (above ++ [name]) node := by
  rw [make] at h
  cases hspot : fs.entrySpot path with
  | error fault => exact absurd h (by simp [hspot])
  | ok spot =>
    rw [hspot] at h
    cases spot with
    | taken place => exact absurd h (by simp)
    | free above name => exact ⟨above, name, rfl, (Except.ok.inj h).symm⟩

theorem exists_spot_of_remove (h : fs.remove path = .ok next) :
    ∃ place, fs.entrySpot path = .ok (.taken place) ∧
      next = { fs with tree := erase place fs.tree } := by
  rw [remove] at h
  cases hspot : fs.entrySpot path with
  | error fault => exact absurd h (by simp [hspot])
  | ok spot =>
    rw [hspot] at h
    cases spot with
    | free above name => exact absurd h (by simp)
    | taken place => exact ⟨place, rfl, (Except.ok.inj h).symm⟩

/-- What is made shows at its place, and nothing else changes. -/
theorem make_shows (hnode : node.face = node) (h : fs.make node path = .ok next) :
    next.workingFolder = fs.workingFolder ∧ ∃ place, ∀ q,
      faceAt q next.tree = if q = place then some node else faceAt q fs.tree := by
  obtain ⟨above, name, hspot, rfl⟩ := exists_spot_of_make h
  obtain ⟨habove, hfree⟩ := spot_fits (spot_of_entrySpot hspot)
  exact ⟨rfl, above ++ [name], faceAt_put hnode habove (by simp [hfree])⟩

/-- **What a step changes**: it shows something at one place, or clears the place and everything
below.  Nothing clears the top. -/
theorem Step.face (h : Step fs next) :
    next.workingFolder = fs.workingFolder ∧ ∃ place,
      (∃ new, ∀ q, faceAt q next.tree = if q = place then some new else faceAt q fs.tree) ∨
        ∀ q, faceAt q next.tree
          = if place ≠ [] ∧ place <+: q then none else faceAt q fs.tree := by
  cases h with
  | makeFolder path h =>
    obtain ⟨hfolder, place, hface⟩ := make_shows rfl h
    exact ⟨hfolder, place, Or.inl ⟨_, hface⟩⟩
  | link path target h =>
    obtain ⟨hfolder, place, hface⟩ := make_shows rfl h
    exact ⟨hfolder, place, Or.inl ⟨_, hface⟩⟩
  | write path content h =>
    obtain ⟨hfolder, spot, -, -, hface⟩ := write_shows h
    exact ⟨hfolder, spot.place, Or.inl ⟨_, hface⟩⟩
  | remove path h =>
    obtain ⟨place, -, rfl⟩ := exists_spot_of_remove h
    refine ⟨rfl, place, Or.inr fun q => ?_⟩
    by_cases hplace : place = []
    · rw [if_neg fun hnot => hnot.1 hplace, hplace]
      cases hfs : fs.tree <;> rfl
    · simp only [faceAt_erase hplace, ne_eq, hplace, not_false_eq_true, true_and]

/-! ## Tidy disks -/

theorem isTidy_make (htidy : fs.tree.isTidy = true) (hnode : node.isTidy = true)
    (h : fs.make node path = .ok next) : next.tree.isTidy = true := by
  obtain ⟨above, name, hspot, rfl⟩ := exists_spot_of_make h
  exact isTidy_put htidy hnode (isName_of_spot_free htidy (spot_of_entrySpot hspot))

theorem isTidy_write {content : FileContent} (htidy : fs.tree.isTidy = true)
    (h : fs.write path content = .ok next) : next.tree.isTidy = true := by
  rw [write] at h
  split at h
  · split at h <;> exact absurd h (by simp)
  · split at h
    · exact absurd h (by simp)
    · next above name hspot =>
      obtain rfl := Except.ok.inj h
      exact isTidy_put htidy rfl (isName_of_spot_free htidy hspot)
    · next place hspot =>
      split at h
      · next old hold =>
        obtain rfl := Except.ok.inj h
        exact isTidy_put htidy rfl (tidy_of_get? htidy hold).1
      · exact absurd h (by simp)

/-- **A step keeps a tidy disk tidy.** -/
theorem Step.isTidy (h : Step fs next) (htidy : fs.tree.isTidy = true) :
    next.tree.isTidy = true := by
  cases h with
  | makeFolder path h => exact isTidy_make htidy rfl h
  | link path target h => exact isTidy_make htidy rfl h
  | write path content h => exact isTidy_write htidy h
  | remove path h =>
    obtain ⟨place, -, rfl⟩ := exists_spot_of_remove h
    exact isTidy_erase htidy

theorem isTidy_of_steps (h : Relation.ReflTransGen Step fs next)
    (htidy : fs.tree.isTidy = true) : next.tree.isTidy = true := by
  induction h with
  | refl => exact htidy
  | tail _ hstep ih => exact hstep.isTidy ih

/-- **Disks are tidy**, whatever has happened since they were empty. -/
theorem isTidy_of_empty {workingFolder : Place}
    (h : Relation.ReflTransGen Step ⟨emptyFolder, workingFolder⟩ next) : next.tree.isTidy = true :=
  isTidy_of_steps h rfl

end

/-! ## Programs that take steps -/

/-- A program that changes disks by steps only. -/
def Stepwise {α : Type} (program : StateM FileSystem α) : Prop :=
  ∀ fs : FileSystem, Relation.ReflTransGen Step fs (program.run fs).2

theorem AsksOnly.stepwise {α : Type} {program : StateM FileSystem α} (h : AsksOnly program) :
    Stepwise program := by
  intro fs
  rw [h fs]

theorem Stepwise.bind {α β : Type} {program : StateM FileSystem α}
    {next : α → StateM FileSystem β} (h : Stepwise program)
    (hnext : ∀ value, Stepwise (next value)) : Stepwise (program >>= next) :=
  fun fs => (h fs).trans (hnext (program.run fs).1 (program.run fs).2)

/-- A change is a step, or it is refused and there is none. -/
theorem stepwise_change {step : FileSystem → Except DiskFault FileSystem}
    (h : ∀ {fs next}, step fs = .ok next → Step fs next) : Stepwise (change step) := by
  intro fs
  show Relation.ReflTransGen Step fs (change step fs).2
  rw [change]
  cases hstep : step fs with
  | error fault => exact .refl
  | ok next => exact .single (h hstep)

theorem stepwise_makeFolder (path : Path) : Stepwise (Disk.makeFolder path) :=
  stepwise_change (.makeFolder path)

theorem stepwise_writeText (path : Path) (text : Text) : Stepwise (Disk.writeText path text) :=
  stepwise_change (.write path (.text text))

theorem stepwise_ensureFolder (path : Path) : Stepwise (Disk.ensureFolder path) := by
  refine (stepwise_makeFolder path).bind fun answer => AsksOnly.stepwise ?_
  split
  · refine AsksOnly.bind (.ask _) fun there => ?_
    split <;> exact .pure _
  · exact .pure _

theorem stepwise_ensureChain (paths : List Path) : Stepwise (Disk.ensureChain paths) := by
  induction paths with
  | nil => exact (AsksOnly.pure _).stepwise
  | cons path above ih =>
    refine (stepwise_ensureFolder path).bind fun answer => ?_
    split
    · refine ih.bind fun answer => ?_
      cases answer with
      | ok done => exact stepwise_ensureFolder path
      | error fault => exact (AsksOnly.pure _).stepwise
    · exact (AsksOnly.pure _).stepwise

theorem stepwise_makeFolders (path : Path) : Stepwise (Disk.makeFolders path) := by
  rw [Disk.makeFolders]
  split
  · exact (AsksOnly.pure _).stepwise
  · exact stepwise_ensureChain _

end FileSystem

namespace Conversion

open FileSystem

theorem stepwise_writeBelow (path : Path) (text : Text) : Stepwise (writeBelow path text) := by
  refine (stepwise_makeFolders _).bind fun answer => ?_
  cases answer with
  | error fault => exact (AsksOnly.pure _).stepwise
  | ok done => exact stepwise_writeText path text

theorem stepwise_makeView (settings : Settings) (rootNamespace : Text) (output : Path)
    (d : Document) : Stepwise (makeView settings rootNamespace output d) := by
  rw [makeView]
  split
  · exact (AsksOnly.pure _).stepwise
  · refine (AsksOnly.readText d.place).stepwise.bind fun answer => ?_
    cases answer with
    | error fault => exact (AsksOnly.pure _).stepwise
    | ok text =>
      simp only
      cases View.ofText settings rootNamespace d text with
      | error e => exact (AsksOnly.pure _).stepwise
      | ok view =>
        refine (stepwise_writeBelow _ _).bind fun answer => ?_
        cases answer <;> exact (AsksOnly.pure _).stepwise

theorem stepwise_makeViews (settings : Settings) (rootNamespace : Text) (output : Path)
    (documents : List Document) : Stepwise (makeViews settings rootNamespace output documents) := by
  induction documents with
  | nil => exact (AsksOnly.pure _).stepwise
  | cons d rest ih =>
    exact (stepwise_makeView settings rootNamespace output d).bind fun _ =>
      ih.bind fun _ => (AsksOnly.pure _).stepwise

/-- **A run takes steps only**, whether it ends with a report or not. -/
theorem stepwise_run (request : Request) : Stepwise (run request) := by
  refine (asksOnly_plan request).stepwise.bind fun planned => ?_
  cases planned with
  | error e => exact (AsksOnly.pure _).stepwise
  | ok made =>
    refine (stepwise_makeFolders request.output).bind fun answer => ?_
    cases answer with
    | error fault => exact (AsksOnly.pure _).stepwise
    | ok done => exact (stepwise_makeViews _ _ _ _).bind fun _ => (AsksOnly.pure _).stepwise

end Conversion
end DocViews
