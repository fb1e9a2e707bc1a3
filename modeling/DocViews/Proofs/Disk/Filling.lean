import DocViews.Proofs.Disk.Laying

/-!
# Writing files along paths

What a run leaves behind when it writes files, on any disk: folders where there was nothing, and a
file at the end of every path that was written (`FileSystem.Filled`).  No other file is new or holds
something else, and what is there stays there, so a path goes on leading to its file while others
are written (`Filled.trans`).

Links may be on the way; a file behind a link is where the link leads to.
-/

set_option autoImplicit false

namespace DocViews
namespace FileSystem

open Node

/-- **A file that is written shows at its place**, and nothing else changes. -/
theorem write_shows {fs next : FileSystem} {path : Path} {content : FileContent}
    (h : fs.write path content = .ok next) :
    next.workingFolder = fs.workingFolder ∧ ∃ spot, fs.spot true path = .ok spot ∧
      (faceAt spot.place fs.tree = none ∨
        ∃ old, faceAt spot.place fs.tree = some (.file old)) ∧
      ∀ q, faceAt q next.tree
        = if q = spot.place then some (.file content) else faceAt q fs.tree := by
  rw [write] at h
  split at h
  · split at h <;> exact absurd h (by simp)
  · split at h
    · exact absurd h (by simp)
    · next above name hspot =>
      obtain rfl := Except.ok.inj h
      obtain ⟨habove, hfree⟩ := spot_fits hspot
      exact ⟨rfl, _, hspot, Or.inl hfree, faceAt_put rfl habove (by simp [hfree])⟩
    · next p hspot =>
      split at h
      · next old hold =>
        obtain rfl := Except.ok.inj h
        have hfile : faceAt p fs.tree = some (.file old) := faceAt_eq_file_iff.2 hold
        -- the top of the tree is a folder, so the file is in one
        have hne : p ≠ [] := by
          rintro rfl
          have htop : faceAt (fs.startOf path) fs.tree = some emptyFolder := faceAt_startOf hspot
          by_cases hstart : fs.startOf path = []
          · rw [hstart, hfile] at htop
            exact Node.noConfusion (Option.some.inj htop)
          · have hnone := faceAt_append_eq_none (by rw [hfile]; simp [emptyFolder]) hstart
            rw [List.nil_append, htop] at hnone
            exact absurd hnone (by simp)
        obtain ⟨above, name, rfl⟩ : ∃ above name, p = above ++ [name] :=
          ⟨p.dropLast, p.getLast hne, (List.dropLast_concat_getLast hne).symm⟩
        have hthere : faceAt (above ++ [name]) fs.tree ≠ none := by
          rw [hfile]
          exact Option.some_ne_none _
        refine ⟨rfl, _, hspot, Or.inr ⟨old, hfile⟩, faceAt_put rfl ?_ ?_⟩
        · exact faceAt_eq_emptyFolder_of_append (List.cons_ne_nil name []) hthere
        · rw [hfile]
          exact fun hfolder => Node.noConfusion (Option.some.inj hfolder)
      · exact absurd h (by simp)

/-- A disk that has come out of another one by writing files at paths. -/
structure Filled (paths : List Path) (fs next : FileSystem) : Prop where
  workingFolder : next.workingFolder = fs.workingFolder
  isFile : ∀ path ∈ paths, next.isFile path = true
  /-- A file is new, or holds something else, only where one of the paths leads to. -/
  grown : Grown (fun q => ∃ path ∈ paths, next.spot true path = .ok (.taken q)) fs.tree next.tree

theorem Laid.filled {paths : List Path} {fs next : FileSystem} (h : Laid paths fs next) :
    Filled [] fs next where
  workingFolder := h.workingFolder
  isFile := fun _ hpath => absurd hpath List.not_mem_nil
  grown := h.grown.mono fun _ => False.elim

namespace Filled

variable {paths more : List Path} {fs gs next : FileSystem}

theorem refl (fs : FileSystem) : Filled [] fs fs :=
  (Laid.refl [] fs).filled

/-- A path that leads to its file still does so when other files are written. -/
theorem trans (h : Filled paths fs gs) (hnext : Filled more gs next) :
    Filled (paths ++ more) fs next where
  workingFolder := hnext.workingFolder.trans h.workingFolder
  isFile := by
    intro path hpath
    rcases List.mem_append.1 hpath with hearly | hlate
    · exact isFile_grown hnext.grown hnext.workingFolder (h.isFile path hearly)
    · exact hnext.isFile path hlate
  grown := by
    refine (h.grown.mono ?_).trans (hnext.grown.mono ?_)
    · rintro q ⟨path, hpath, hspot⟩
      exact ⟨path, List.mem_append_left _ hpath,
        spot_taken_grown hnext.grown hnext.workingFolder hspot⟩
    · rintro q ⟨path, hpath, hspot⟩
      exact ⟨path, List.mem_append_right _ hpath, hspot⟩

/-- Where none of the paths leads to, the same files are there. -/
theorem get?_eq_file_iff (h : Filled paths fs next) {place : Place}
    (hplace : ∀ path ∈ paths, next.spot true path ≠ .ok (.taken place)) (content : FileContent) :
    get? place next.tree = some (.file content) ↔ get? place fs.tree = some (.file content) :=
  h.grown.get?_eq_file_iff (fun ⟨path, hpath, hspot⟩ => hplace path hpath hspot) content

end Filled

section

variable {fs next : FileSystem} {path : Path} {content : FileContent}

/-- A path that is written leads to its place, and to no other node on the way. -/
theorem spot_of_write (h : fs.write path content = .ok next) :
    ∃ place, next.spot true path = .ok (.taken place) ∧
      faceAt place next.tree = some (.file content) ∧ Grown (· = place) fs.tree next.tree := by
  obtain ⟨hfolder, spot, hspot, hold, hface⟩ := write_shows h
  have hnew : faceAt spot.place next.tree = some (.file content) := by
    rw [hface, if_pos rfl]
  have hgrown : Grown (· = spot.place) fs.tree next.tree := by
    intro q
    by_cases hq : q = spot.place
    · exact Or.inr (Or.inr ⟨hq, hq ▸ hold, content, hq ▸ hnew⟩)
    · exact Or.inl ((hface q).trans (if_neg hq))
  refine ⟨spot.place, ?_, hnew, hgrown⟩
  cases spot with
  | taken place => exact spot_taken_grown hgrown hfolder hspot
  | free above name =>
    rw [spot_free_grown hgrown hfolder hspot, if_neg]
    · rfl
    · rw [show above ++ [name] = (Spot.free above name).place from rfl, hnew]
      exact Option.some_ne_none _

/-- **A path that is written leads to its file.** -/
theorem filled_write (h : fs.write path content = .ok next) : Filled [path] fs next := by
  obtain ⟨place, hleads, hnew, hgrown⟩ := spot_of_write h
  refine ⟨(write_shows h).1, fun other hother => ?_, hgrown.mono ?_⟩
  · rw [List.mem_singleton.1 hother]
    exact isFile_iff.2 ⟨place, content, hleads, faceAt_eq_file_iff.1 hnew⟩
  · rintro q rfl
    exact ⟨path, List.mem_singleton_self path, hleads⟩

/-- **What has been written can be read.** -/
theorem readText_write {text : Text} (h : fs.write path (.text text) = .ok next) :
    next.readText path = .ok text := by
  obtain ⟨place, hleads, hnew, -⟩ := spot_of_write h
  rw [readText, readContent, node, hleads]
  simp only [faceAt_eq_file_iff.1 hnew]

end

end FileSystem
end DocViews
