import DocViews.Proofs.Conversion.Plan
import DocViews.Proofs.Disk.Laying

/-!
# Runs that fail

A run that stops before its views has written no file.  Unless it was the output folder that could
not be made, it has changed nothing at all: the plan only asks, and it is behind everything else
that can go wrong.  Making the output folder may fail half-way, and then the folders that were made
on its path stay (`Conversion.changes_of_run_error`).
-/

set_option autoImplicit false

namespace DocViews
namespace Conversion

open FileSystem Node

variable {request : Request} {fs : FileSystem}

theorem run_run (request : Request) (fs : FileSystem) :
    (run request : StateM FileSystem _).run fs
      = match ((plan request : StateM FileSystem _).run fs).1 with
        | .error e => (.error e, fs)
        | .ok plan => (execute request.output plan : StateM FileSystem _).run fs := by
  rw [run, run_bind, asksOnly_plan request fs]
  cases ((plan request : StateM FileSystem _).run fs).1 <;> rfl

/-- Once the output folder is there, nothing stops a run. -/
theorem run_execute_error {output : Path} {plan : Plan} {e : RunError}
    (h : ((execute output plan : StateM FileSystem _).run fs).1 = .error e) :
    (∃ fault, e = .output fault) ∧
      ((execute output plan : StateM FileSystem _).run fs).2
        = ((Disk.makeFolders output : StateM FileSystem _).run fs).2 := by
  rw [execute, run_bind] at h ⊢
  cases hmade : ((Disk.makeFolders output : StateM FileSystem _).run fs).1 with
  | error fault =>
    rw [hmade] at h
    exact ⟨⟨fault, (Except.error.inj h).symm⟩, rfl⟩
  | ok done =>
    rw [hmade] at h
    have hreport : Except.ok (reportOf plan.project _) = Except.error e := h
    exact absurd hreport (by simp)

/-- **What a failed run leaves behind.**  Every file is there with what it held, and no other; and
if it is not the output folder that could not be made, the disk is the same.  All that can be new
are folders, each where the output path or a path above it leads to. -/
theorem changes_of_run_error {e : RunError}
    (h : ((run request : StateM FileSystem _).run fs).1 = .error e) :
    let next := ((run request : StateM FileSystem _).run fs).2
    ((∀ fault, e ≠ .output fault) → next = fs) ∧
      (∀ place content,
        get? place next.tree = some (.file content) ↔ get? place fs.tree = some (.file content)) ∧
      Laid (request.output :: Disk.pathsAbove request.output) fs next := by
  intro next
  have hrun := run_run request fs
  cases hplan : ((plan request : StateM FileSystem _).run fs).1 with
  | error fault =>
    rw [hplan] at hrun
    have hnext : next = fs := congrArg Prod.snd hrun
    rw [hnext]
    exact ⟨fun _ => rfl, fun _ _ => Iff.rfl, .refl _ fs⟩
  | ok made =>
    rw [hplan] at hrun
    simp only at hrun
    rw [hrun] at h
    obtain ⟨⟨fault, rfl⟩, hlast⟩ := run_execute_error h
    have hnext : next = ((Disk.makeFolders request.output : StateM FileSystem _).run fs).2 :=
      (congrArg Prod.snd hrun).trans hlast
    rw [hnext]
    have hlaid := lays_makeFolders request.output fs
    exact ⟨fun hother => absurd rfl (hother fault), hlaid.get?_eq_file_iff, hlaid⟩

/-- A disk with a document and a project. -/
def projectDisk : FileSystem where
  tree := .folder [
    ("App.csproj".toList, .file (.text "<RootNamespace>App</RootNamespace>".toList)),
    ("Docs".toList, .folder [("Intro.md".toList, .file (.text "# Hi".toList))])]
  workingFolder := []

/-- A request whose output path comes by a folder that is missing and then runs into a file. -/
def blockedRequest : Request where
  pattern := "Docs/*.md".toList
  output := ⟨"New/../App.csproj/Views".toList⟩
  descriptor := none
  settingsFile := none

/-- The run makes the folder that is missing, and fails at the file; the folder stays. -/
theorem changes_of_run_error_blocked :
    ((run blockedRequest : StateM FileSystem _).run projectDisk).1
        = .error (.output .alreadyExists) ∧
      ((run blockedRequest : StateM FileSystem _).run projectDisk).2.isFolder ⟨"New".toList⟩
        = true ∧
      get? ["Docs".toList, "Intro.md".toList]
          ((run blockedRequest : StateM FileSystem _).run projectDisk).2.tree
        = some (.file (.text "# Hi".toList)) :=
  have herror : ((run blockedRequest : StateM FileSystem _).run projectDisk).1
      = .error (.output .alreadyExists) := by decide +kernel
  have hpage : get? ["Docs".toList, "Intro.md".toList] projectDisk.tree
      = some (.file (.text "# Hi".toList)) := rfl
  ⟨herror, by decide +kernel, ((changes_of_run_error herror).2.1 _ _).2 hpage⟩

end Conversion
end DocViews
