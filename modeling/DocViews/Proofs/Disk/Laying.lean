import DocViews.Disk.Folders
import DocViews.Proofs.Disk.Asking
import DocViews.Proofs.FileSystem.Growth

/-!
# Laying folders along paths

What `Disk.makeFolders` leaves behind, on any disk and whether it succeeds or not: nothing but
folders where there was nothing, each of them at the end of the path or of a path above it
(`FileSystem.Lays`, `lays_makeFolders`).  Links may be on the way; a folder behind a link is where
the link leads to.

A program made of parts that lay folders along the same paths lays folders along them too
(`Lays.bind`), so a chain of folders needs one induction, and what makes one folder needs one case.
-/

set_option autoImplicit false

namespace DocViews
namespace FileSystem

open Node

/-- A disk that has come out of another one by laying folders along paths. -/
structure Laid (paths : List Path) (fs next : FileSystem) : Prop where
  workingFolder : next.workingFolder = fs.workingFolder
  /-- What is new is a folder, and one of the paths leads to it. -/
  face : ∀ place, faceAt place next.tree = faceAt place fs.tree ∨
    (faceAt place fs.tree = none ∧ faceAt place next.tree = some emptyFolder ∧
      ∃ path ∈ paths, next.spot false (withoutSlashes path) = .ok (.taken place))

namespace Laid

variable {paths more : List Path} {fs gs next : FileSystem}

theorem refl (paths : List Path) (fs : FileSystem) : Laid paths fs fs :=
  ⟨rfl, fun _ => Or.inl rfl⟩

theorem mono (h : Laid paths fs next) (hmore : ∀ path ∈ paths, path ∈ more) :
    Laid more fs next := by
  refine ⟨h.workingFolder, fun place => ?_⟩
  rcases h.face place with hsame | ⟨hfree, hnew, path, hpath, hspot⟩
  · exact Or.inl hsame
  · exact Or.inr ⟨hfree, hnew, path, hmore path hpath, hspot⟩

/-- No file is written. -/
theorem grown (h : Laid paths fs next) : Grown (fun _ => False) fs.tree next.tree := by
  intro place
  rcases h.face place with hsame | ⟨hfree, hnew, -⟩
  · exact Or.inl hsame
  · exact Or.inr (Or.inl ⟨hfree, hnew⟩)

/-- A path that leads to a new folder still does so when there are more. -/
theorem trans (h : Laid paths fs gs) (hnext : Laid paths gs next) : Laid paths fs next := by
  refine ⟨hnext.workingFolder.trans h.workingFolder, fun place => ?_⟩
  rcases hnext.face place with hsame | ⟨hfree, hnew, hpath⟩
  · rw [hsame]
    rcases h.face place with hsame' | ⟨hfree, hnew, path, hpath, hspot⟩
    · exact Or.inl hsame'
    · exact Or.inr ⟨hfree, hnew, path, hpath,
        spot_taken_grown hnext.grown hnext.workingFolder hspot⟩
  · rcases h.face place with hsame' | ⟨-, hnew', -⟩
    · exact Or.inr ⟨hsame' ▸ hfree, hnew, hpath⟩
    · exact absurd (hnew'.symm.trans hfree) (by simp)

/-- Files stay what they are. -/
theorem get?_eq_file_iff (h : Laid paths fs next) (place : Place) (content : FileContent) :
    get? place next.tree = some (.file content) ↔ get? place fs.tree = some (.file content) :=
  h.grown.get?_eq_file_iff id content

end Laid

/-! ## Programs that lay folders -/

/-- A program that lays folders along paths, and does nothing else. -/
def Lays {α : Type} (paths : List Path) (program : StateM FileSystem α) : Prop :=
  ∀ fs, Laid paths fs (program.run fs).2

theorem AsksOnly.lays {α : Type} {program : StateM FileSystem α} (h : AsksOnly program)
    (paths : List Path) : Lays paths program := by
  intro fs
  rw [h fs]
  exact .refl paths fs

theorem Lays.mono {α : Type} {paths more : List Path} {program : StateM FileSystem α}
    (h : Lays paths program) (hmore : ∀ path ∈ paths, path ∈ more) : Lays more program :=
  fun fs => (h fs).mono hmore

theorem Lays.bind {α β : Type} {paths : List Path} {program : StateM FileSystem α}
    {next : α → StateM FileSystem β} (h : Lays paths program)
    (hnext : ∀ value, Lays paths (next value)) : Lays paths (program >>= next) :=
  fun fs => (h fs).trans (hnext (program.run fs).1 (program.run fs).2)

/-! ## Making folders -/

/-- A new folder is where the path leads to from then on. -/
theorem laid_withNode {fs : FileSystem} {path : Path} {above : Place} {name : Text}
    (h : fs.spot false (withoutSlashes path) = .ok (.free above name)) :
    Laid [path] fs (fs.withNode (above ++ [name]) emptyFolder) := by
  obtain ⟨habove, hfree⟩ := spot_fits h
  have hface : ∀ place, faceAt place (fs.withNode (above ++ [name]) emptyFolder).tree
      = if place = above ++ [name] then some emptyFolder else faceAt place fs.tree :=
    faceAt_put rfl habove (by simp [hfree])
  have hgrown : Grown (fun _ => False) fs.tree
      (fs.withNode (above ++ [name]) emptyFolder).tree := by
    intro place
    by_cases hplace : place = above ++ [name]
    · exact Or.inr (Or.inl ⟨hplace ▸ hfree, (hface place).trans (if_pos hplace)⟩)
    · exact Or.inl ((hface place).trans (if_neg hplace))
  refine ⟨rfl, fun place => ?_⟩
  by_cases hplace : place = above ++ [name]
  · refine Or.inr ⟨hplace ▸ hfree, (hface place).trans (if_pos hplace), path,
      List.mem_singleton_self path, ?_⟩
    rw [spot_free_grown hgrown rfl h, if_neg (by simp [hface]), hplace]
  · exact Or.inl ((hface place).trans (if_neg hplace))

theorem lays_makeFolder (path : Path) : Lays [path] (Disk.makeFolder path) := by
  intro fs
  show Laid [path] fs (change (·.makeFolder path) fs).2
  rw [change, makeFolder, make]
  cases hspot : fs.entrySpot path with
  | error fault => exact .refl _ fs
  | ok spot =>
    cases spot with
    | taken place => exact .refl _ fs
    | free above name => exact laid_withNode (spot_of_entrySpot hspot)

theorem lays_ensureFolder (path : Path) : Lays [path] (Disk.ensureFolder path) := by
  refine (lays_makeFolder path).bind fun answer => AsksOnly.lays ?_ _
  split
  · refine AsksOnly.bind (.ask _) fun there => ?_
    split <;> exact .pure _
  · exact .pure _

/-- The induction is on the chain: the folders above are made by the rest of it. -/
theorem lays_ensureChain (paths : List Path) : Lays paths (Disk.ensureChain paths) := by
  induction paths with
  | nil => exact (AsksOnly.pure _).lays _
  | cons path above ih =>
    have hfirst : Lays (path :: above) (Disk.ensureFolder path) :=
      (lays_ensureFolder path).mono (by simp)
    have habove : Lays (path :: above) (Disk.ensureChain above) :=
      ih.mono fun _ => List.mem_cons_of_mem path
    refine hfirst.bind fun answer => ?_
    split
    · refine habove.bind fun answer => ?_
      cases answer with
      | ok done => exact hfirst
      | error fault => exact (AsksOnly.pure _).lays _
    · exact (AsksOnly.pure _).lays _

/-- **Making a folder and those above it lays folders along its path**, also where it fails. -/
theorem lays_makeFolders (path : Path) :
    Lays (path :: Disk.pathsAbove path) (Disk.makeFolders path) := by
  rw [Disk.makeFolders]
  split
  · exact (AsksOnly.pure _).lays _
  · exact lays_ensureChain _

end FileSystem
end DocViews
