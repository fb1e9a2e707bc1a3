import DocViews.Catalogue
import DocViews.Proofs.Disk.Asking
import DocViews.Proofs.Document.Output

/-!
# What a scan of a disk finds

Over `FileSystem` a scan is a question about the disk as it is: `Catalogue.found` is the answer, and
the disk stays the same (`run_scan`).  A scan that succeeds has found the documents below the input
root, and no two of them clash (`found_eq_ok_iff`).
-/

set_option autoImplicit false

namespace DocViews
namespace Catalogue

/-- The answer of a scan. -/
def found (fs : FileSystem) (input : InputPattern) (conventions : Conventions) (extension : Text) :
    Except ScanError (List Document) :=
  if fs.isFolder input.root then
    match fs.filesBelow input.root with
    | .error fault => .error (.disk fault)
    | .ok files =>
      let all := documents input conventions (Path.ofPlace fs.workingFolder) files
      match Document.firstClash? extension all with
      | some clash => .error (.clash clash)
      | none => .ok all
  else .error (.noRoot input.root)

variable {fs next : FileSystem} {input : InputPattern} {conventions : Conventions}
  {extension : Text} {all : List Document}

/-- **A scan changes nothing**, and its answer is about the disk as it is. -/
theorem run_scan (fs : FileSystem) (input : InputPattern) (conventions : Conventions)
    (extension : Text) :
    (scan input conventions extension : StateM FileSystem _).run fs
      = (found fs input conventions extension, fs) := by
  rw [scan, found, FileSystem.isFolder_eq_ask, FileSystem.run_ask_bind]
  split
  · rw [FileSystem.filesBelow_eq_ask, FileSystem.run_ask_bind]
    cases fs.filesBelow input.root with
    | error fault => rfl
    | ok files =>
      simp only [FileSystem.workingFolder_eq_ask, FileSystem.run_ask_bind]
      cases Document.firstClash? extension
        (documents input conventions (Path.ofPlace fs.workingFolder) files) <;> rfl
  · rfl

theorem found_eq_ok_iff :
    found fs input conventions extension = .ok all
      ↔ fs.isFolder input.root = true ∧ ∃ files,
        fs.filesBelow input.root = .ok files ∧
        all = documents input conventions (Path.ofPlace fs.workingFolder) files ∧
        Document.firstClash? extension all = none := by
  rw [found]
  split
  · next hfolder =>
    cases hfiles : fs.filesBelow input.root with
    | error fault => simp
    | ok files =>
      simp only
      split
      · next clash hclash =>
        refine ⟨fun h => absurd h (by simp), ?_⟩
        rintro ⟨-, files', hfiles', rfl, hnone⟩
        obtain rfl : files = files' := Except.ok.inj hfiles'
        exact absurd (hclash.symm.trans hnone) (by simp)
      · next hclash =>
        constructor
        · intro h
          obtain rfl := Except.ok.inj h
          exact ⟨hfolder, files, rfl, rfl, hclash⟩
        · rintro ⟨-, files', hfiles', rfl, -⟩
          obtain rfl : files = files' := Except.ok.inj hfiles'
          rfl
  · next hfolder => simp [hfolder]

/-- The documents that a successful scan answers with. -/
theorem found_of_run_scan
    (h : (scan input conventions extension : StateM FileSystem _).run fs = (.ok all, next)) :
    found fs input conventions extension = .ok all := by
  rw [run_scan] at h
  exact (Prod.mk.inj h).1

theorem isDescribed_of_mem_found (h : found fs input conventions extension = .ok all)
    {d : Document} (hd : d ∈ all) : d.IsDescribed conventions := by
  obtain ⟨-, files, -, rfl, -⟩ := found_eq_ok_iff.1 h
  obtain ⟨names, -, rfl⟩ := List.mem_map.1 (List.mem_mergeSort.1 hd)
  exact Document.isDescribed_describe _ _ _ _

theorem firstClash?_of_found (h : found fs input conventions extension = .ok all) :
    Document.firstClash? extension all = none := by
  obtain ⟨-, -, -, -, hclash⟩ := found_eq_ok_iff.1 h
  exact hclash

end Catalogue
end DocViews
